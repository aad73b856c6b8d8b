import DeepGemmRs.Jit.Cache
import DeepGemmRs.Jit.Provenance

/-!
# The flags of a kernel over device switches

Sequential runs of `runtime_init`, changes of the current device and calls of `build_kernel`, on one machine.

* `gpuArchitecture`, `flagsFor` : what the device has to do with the flags, `compilerFlags_eq`;
* `DeviceRun`, `DeviceRun.step` : a run, with a log of the calls that returned;
* `Served.UpToDate` : the kernel was compiled as it would be now;
* `configured` : the kernel was compiled for the device that was current when the configuration was made;
* `upToDate_iff` : in a run the calls are `UpToDate` exactly when the device has the architecture of that one;
* `switched_not_upToDate` : an SM90 device, then an SM100 device.
-/

namespace DeepGemmRs.Jit

open Checked Dirs Dirs.Store Runs Stateful Stateful.Prog

/-! ## The device in the flags -/

/-- The value of `--gpu-architecture`, less `sm_`. -/
def gpuArchitecture (host : Host) (currentDeviceInfo : Native DeviceInfo) (nvcc : Path) : Native String := do
  let (nvccMajor, nvccMinor) ← nvccVersion host nvcc
  let info ← currentDeviceInfo
  .ok (nvccArch info (decide (nvccMajor > 12 ∨ (nvccMajor = 12 ∧ nvccMinor ≥ 9))))

/-- The flags before the architecture. -/
def flagsBefore (roots : Roots) (host : Host) : String :=
  let verbose := envInt host "DG_JIT_DEBUG" 0 ≠ 0 ∨ envInt host "DG_JIT_PTXAS_VERBOSE" 0 ≠ 0 ∨
    envInt host "DG_JIT_PTXAS_CHECK" 0 ≠ 0
  "-std=c++" ++ toString (envInt host "DG_JIT_CPP_STANDARD" 20)
    ++ " --diag-suppress=39,161,174,177,186,940 --ptxas-options=--register-usage-level=10"
    ++ (if verbose then " --ptxas-options=--verbose,--warn-on-local-memory-usage" else "")
    ++ (if envInt host "DG_JIT_WITH_LINEINFO" 0 ≠ 0 then " -Xcompiler -rdynamic -lineinfo" else "")
    ++ " -I" ++ shellQuote roots.includePath
    ++ " -I" ++ shellQuote roots.cutlassIncludePath
    ++ " -I" ++ shellQuote roots.cutlassUtilIncludePath
    ++ " --gpu-architecture=sm_"

def flagsFor (roots : Roots) (host : Host) (architecture : String) : String :=
  flagsBefore roots host ++ architecture
    ++ " --compiler-options=-fPIC,-O3,-fconcepts,-Wno-deprecated-declarations,-Wno-abi"
    ++ " -O3 --expt-relaxed-constexpr --expt-extended-lambda"

/-- The device has to do with the architecture only. -/
theorem compilerFlags_eq {roots : Roots} {host : Host} {info : Native DeviceInfo} {nvcc : Path} {flags : String} :
    compilerFlags roots host info nvcc = .ok flags ↔
      ∃ architecture, gpuArchitecture host info nvcc = .ok architecture ∧ flags = flagsFor roots host architecture := by
  unfold compilerFlags gpuArchitecture
  cases nvccVersion host nvcc with
  | error stop => exact ⟨nofun, fun ⟨_, h, _⟩ => nomatch h⟩
  | ok version =>
    cases info with
    | error stop => exact ⟨nofun, fun ⟨_, h, _⟩ => nomatch h⟩
    | ok info =>
      constructor
      · intro h
        cases h
        exact ⟨_, rfl, rfl⟩
      · rintro ⟨architecture, h, rfl⟩
        cases h
        rfl

theorem flagsFor_inj {roots : Roots} {host : Host} {architecture architecture' : String} :
    flagsFor roots host architecture = flagsFor roots host architecture' ↔ architecture = architecture' := by
  unfold flagsFor
  simp only [String.append_left_inj, String.append_right_inj]

/-! ## Runs -/

inductive DeviceEvent (driver : Driver) where
  /-- The device follows the context. -/
  | setCurrent (current : Option driver.Context)
  | init (deepgemmRoot cudaHome : String)
  | build (answers : Answers driver) (name code : String)

/-- A call of `build_kernel` that returned. -/
structure Served (driver : Driver) where
  /-- The strings of the last `runtime_init` that returned. -/
  roots : Roots
  current : Option driver.Context
  /-- The context that was current when the configuration in use was made. -/
  configuredOn : Option (Option driver.Context)
  /-- What the kernel was compiled from. -/
  compilation : Option (Compilation Unit)

structure DeviceRun (driver : Driver) where
  process : Process driver
  origins : Origins Unit
  configuredOn : Option (Option driver.Context)
  log : List (Served driver)

section

variable {driver : Driver} {host : Host}

/-- A new process, and a cache directory with kernels compiled earlier. -/
def DeviceRun.start (disk : Disk) (cubins : Nat → Option (Compilation Unit)) : DeviceRun driver where
  process := ⟨Roots.empty, none, fun _ => none, none, disk⟩
  origins := ⟨cubins, fun _ => none⟩
  configuredOn := none
  log := []

/-- The context that goes with the configuration that a call leaves. -/
def configuredAfter (run : DeviceRun driver) (process : Process driver) : Option (Option driver.Context) :=
  match run.process.compilerConfigCache with
  | some _ => run.configuredOn
  | none => process.compilerConfigCache.map fun _ => run.process.current

/-- The run after a call of `build_kernel`. -/
def DeviceRun.record (run : DeviceRun driver) (name code : String)
    (result : Except Stop (KernelRuntime driver) × Process driver × Origins Unit) : DeviceRun driver where
  process := result.2.1
  origins := result.2.2
  configuredOn := configuredAfter run result.2.1
  log := match result.1 with
    | .ok _ =>
      { roots := run.process.roots, current := run.process.current, configuredOn := configuredAfter run result.2.1
        compilation := result.2.1.compilerConfigCache.bind fun config =>
          result.2.2.kernels (cacheKey name config code) } :: run.log
    | .error _ => run.log

def DeviceRun.step (host : Host) (run : DeviceRun driver) : DeviceEvent driver → Option (DeviceRun driver)
  | .setCurrent current => some { run with process := { run.process with current } }
  | .init deepgemmRoot cudaHome =>
    match runtimeInit host deepgemmRoot cudaHome with
    | .ok roots => some { run with process := { run.process with roots, compilerConfigCache := none } }
    | .error _ => some run
  | .build answers name code =>
    some (run.record name code (tracedBuildKernel answers () name code (run.process, run.origins)))

/-- The machine stays the same: the environment, and the version of a compiler whenever one can be had. -/
structure SameMachine (host : Host) (answers : Answers driver) : Prop where
  getenv : answers.getenv = host.getenv
  version : ∀ nvcc version, nvccVersion answers.toHost nvcc = .ok version → nvccVersion host nvcc = .ok version

/-- What is asked for is among `K`. -/
def Admits (host : Host) (K : Set Request) (run : DeviceRun driver) : DeviceEvent driver → Prop
  | .build answers name code => SameMachine host answers ∧
    ∀ request root, Asks answers name code run.process request root → request ∈ K
  | _ => True

/-- The kernel was compiled by the `nvcc` of the last `runtime_init`, with the flags that `compiler_flags`
makes for the device that is current. -/
def Served.UpToDate (host : Host) (call : Served driver) : Prop :=
  ∃ c, call.compilation = some c ∧ c.nvcc = (nvccPath call.roots host).string ∧
    compilerFlags call.roots host (driver.currentDeviceInfo call.current) (nvccPath call.roots host) = .ok c.flags

/-- The device has the architecture of the one that the configuration was made for. -/
def Served.SameArchitecture (host : Host) (call : Served driver) : Prop :=
  ∀ context, call.configuredOn = some context →
    gpuArchitecture host (driver.currentDeviceInfo call.current) (nvccPath call.roots host) =
      gpuArchitecture host (driver.currentDeviceInfo context) (nvccPath call.roots host)

/-! ## What a run keeps -/

/-- Made for the device of `context`. -/
def MadeOn (host : Host) (roots : Roots) (context : Option driver.Context) (nvcc flags : String) : Prop :=
  nvcc = (nvccPath roots host).string ∧
    compilerFlags roots host (driver.currentDeviceInfo context) (nvccPath roots host) = .ok flags

/-- What a run keeps: the remembered configuration was made since the last `runtime_init`, and the kernels
that were returned were compiled with the one remembered then. -/
structure Configured (host : Host) (K : Set Request) (run : DeviceRun driver) : Prop where
  honest : Honest K (run.process, run.origins)
  config : ∀ config, run.process.compilerConfigCache = some config →
    ∃ context, run.configuredOn = some context ∧ MadeOn host run.process.roots context config.nvcc.string config.flags
  log : ∀ call ∈ run.log, ∃ c context, call.compilation = some c ∧ call.configuredOn = some context ∧
    MadeOn host call.roots context c.nvcc c.flags

theorem SameMachine.nvccPath_eq {answers : Answers driver} (h : SameMachine host answers) {roots : Roots} :
    nvccPath roots answers.toHost = nvccPath roots host := by
  unfold nvccPath envString
  rw [h.getenv]

/-- Flags that can be made are those of the machine. -/
theorem SameMachine.compilerFlags {answers : Answers driver} (h : SameMachine host answers) {roots : Roots}
    {info : Native DeviceInfo} {nvcc : Path} {flags : String}
    (hflags : compilerFlags roots answers.toHost info nvcc = .ok flags) :
    compilerFlags roots host info nvcc = .ok flags := by
  obtain ⟨architecture, harch, rfl⟩ := compilerFlags_eq.mp hflags
  refine compilerFlags_eq.mpr ⟨architecture, ?_, ?_⟩
  · unfold gpuArchitecture at harch ⊢
    obtain ⟨version, hversion, harch⟩ := bind_eq_ok.mp harch
    rw [h.version nvcc version hversion]
    exact harch
  · unfold flagsFor flagsBefore envInt
    rw [h.getenv]

theorem SameMachine.made {answers : Answers driver} (h : SameMachine host answers) {process t : Process driver}
    {config : CompilerConfig} (hnone : process.compilerConfigCache = none)
    (hr : Returns (compilerConfig answers) process config t) :
    MadeOn host process.roots process.current config.nvcc.string config.flags := by
  rcases compilerConfig_cases hr with hsome | ⟨-, hnvcc, hflags⟩
  · cases hnone.symm.trans hsome
  · have hpath : config.nvcc = nvccPath process.roots host := hnvcc.trans h.nvccPath_eq
    rw [hpath] at hflags
    exact ⟨congrArg Path.string hpath, h.compilerFlags hflags⟩

theorem Configured.start {K : Set Request} {disk : Disk} {cubins : Nat → Option (Compilation Unit)}
    (h : HonestDisk K disk cubins) : Configured host K (DeviceRun.start disk cubins : DeviceRun driver) where
  honest := ⟨h, nofun⟩
  config := nofun
  log := nofun

theorem Configured.config_after {K : Set Request} {run : DeviceRun driver} (h : Configured host K run)
    {answers : Answers driver} (hmachine : SameMachine host answers) {process : Process driver}
    (hafter : ConfigAfter answers run.process process) {config : CompilerConfig}
    (hconfig : process.compilerConfigCache = some config) :
    ∃ context, configuredAfter run process = some context ∧
      MadeOn host run.process.roots context config.nvcc.string config.flags := by
  unfold configuredAfter
  cases hbefore : run.process.compilerConfigCache with
  | some config' =>
    have hsame : config = config' := by
      rcases hafter with hsame | ⟨made, hmade, u, hr⟩
      · rw [hsame, hbefore] at hconfig
        exact (Option.some_inj.mp hconfig).symm
      · rw [hmade] at hconfig
        rcases compilerConfig_cases hr with hsome | ⟨hnone, -⟩
        · rw [hbefore] at hsome
          exact (Option.some_inj.mp hconfig).symm.trans (Option.some_inj.mp hsome).symm
        · cases hbefore.symm.trans hnone
    exact h.config config (hsame ▸ hbefore)
  | none =>
    rcases hafter with hsame | ⟨made, hmade, u, hr⟩
    · cases (hsame.symm.trans hconfig).symm.trans hbefore
    · obtain rfl := Option.some_inj.mp (hmade.symm.trans hconfig)
      exact ⟨run.process.current, by rw [hconfig]; rfl, hmachine.made hbefore hr⟩

/-- A call of `build_kernel`. -/
theorem Configured.build {K : Set Request} (hK : Separated K) {run : DeviceRun driver} (h : Configured host K run)
    {answers : Answers driver} {name code : String} (hmachine : SameMachine host answers)
    (hasks : ∀ request root, Asks answers name code run.process request root → request ∈ K) :
    Configured host K (run.record name code
      (tracedBuildKernel answers () name code (run.process, run.origins))) := by
  have hafter : ConfigAfter answers run.process (buildKernel answers name code run.process).2 := buildKernel_config
  have hroots : (buildKernel answers name code run.process).2.roots = run.process.roots :=
    (buildKernel_settings ..).1
  have hconfigs : ∀ config, (buildKernel answers name code run.process).2.compilerConfigCache = some config →
      ∃ context, configuredAfter run (buildKernel answers name code run.process).2 = some context ∧
        MadeOn host (buildKernel answers name code run.process).2.roots context config.nvcc.string config.flags := by
    intro config hconfig
    rw [hroots]
    exact h.config_after hmachine hafter hconfig
  rcases hr : tracedBuildKernel answers () name code (run.process, run.origins) with ⟨e | runtime, process, origins⟩
  · obtain rfl : _ = process := congrArg Prod.snd (tracedBuildKernel_process hr)
    exact ⟨(tracedBuildKernel_stops hK h.honest hasks hr).1, hconfigs, h.log⟩
  · obtain rfl : _ = process := congrArg Prod.snd (tracedBuildKernel_process hr)
    obtain ⟨hhonest, request, root, c, hask, hcame, hc⟩ := tracedBuildKernel_returns hK h.honest hasks hr
    refine ⟨hhonest, hconfigs, ?_⟩
    intro call hcall
    rcases List.mem_cons.mp hcall with rfl | hcall
    · obtain ⟨config, hconfig, rfl⟩ := hask.remembers
      obtain ⟨context, hcontext, hmade⟩ := h.config_after hmachine hafter hconfig
      refine ⟨c, context, ?_, hcontext, ?_⟩
      · show (buildKernel answers name code run.process).2.compilerConfigCache.bind _ = some c
        rw [hconfig]
        exact hcame.kernels
      · rw [hc]
        exact hmade
    · exact h.log call hcall

theorem Configured.step {K : Set Request} (hK : Separated K) {run next : DeviceRun driver}
    {event : DeviceEvent driver} (h : Configured host K run) (hadmits : Admits host K run event)
    (hs : run.step host event = some next) : Configured host K next := by
  cases event with
  | setCurrent current =>
    cases hs
    exact ⟨⟨h.honest.disk, h.honest.kernels⟩, h.config, h.log⟩
  | init deepgemmRoot cudaHome =>
    simp only [DeviceRun.step] at hs
    split at hs
    · cases hs
      exact ⟨⟨h.honest.disk, h.honest.kernels⟩, nofun, h.log⟩
    · cases hs
      exact h
  | build answers name code =>
    cases hs
    exact h.build hK hadmits.1 hadmits.2

/-- **The kernels of a run** were compiled for the device that their configuration was made on. -/
theorem configured {K : Set Request} (hK : Separated K) {disk : Disk} {cubins : Nat → Option (Compilation Unit)}
    (hdisk : HonestDisk K disk cubins) {trace : List (DeviceEvent driver)} {run : DeviceRun driver}
    (h : Run (DeviceRun.step host) (Admits host K) (DeviceRun.start disk cubins) trace run) :
    Configured host K run :=
  h.invariant (Configured.start hdisk) fun _ _ _ ht hadmits hs => ht.step hK hadmits hs

/-- The flags are those of the device that is current if and only if the architectures agree. -/
theorem MadeOn.upToDate {call : Served driver} {c : Compilation Unit} {context : Option driver.Context}
    (hc : call.compilation = some c) (hcontext : call.configuredOn = some context)
    (h : MadeOn host call.roots context c.nvcc c.flags) : call.UpToDate host ↔ call.SameArchitecture host := by
  obtain ⟨hnvcc, hflags⟩ := h
  obtain ⟨architecture, harch, hfor⟩ := compilerFlags_eq.mp hflags
  constructor
  · rintro ⟨c', hc', -, hflags'⟩ context' hcontext'
    obtain rfl := Option.some_inj.mp (hc.symm.trans hc')
    obtain rfl := Option.some_inj.mp (hcontext.symm.trans hcontext')
    obtain ⟨architecture', harch', hfor'⟩ := compilerFlags_eq.mp hflags'
    rw [harch, harch', flagsFor_inj.mp (hfor.symm.trans hfor')]
  · intro hsame
    refine ⟨c, hc, hnvcc, compilerFlags_eq.mpr ⟨architecture, ?_, hfor⟩⟩
    rw [hsame context hcontext]
    exact harch

/-- **The kernels of a run are up to date** exactly when, at each call that returned, the current device has the
architecture of the device that was current when the compiler configuration was made. -/
theorem upToDate_iff {K : Set Request} (hK : Separated K) {disk : Disk} {cubins : Nat → Option (Compilation Unit)}
    (hdisk : HonestDisk K disk cubins) {trace : List (DeviceEvent driver)} {run : DeviceRun driver}
    (h : Run (DeviceRun.step host) (Admits host K) (DeviceRun.start disk cubins) trace run) :
    (∀ call ∈ run.log, call.UpToDate host) ↔ ∀ call ∈ run.log, call.SameArchitecture host := by
  refine forall₂_congr ?_
  intro call hcall
  obtain ⟨c, context, hc, hcontext, hmade⟩ := (configured hK hdisk h).log call hcall
  exact hmade.upToDate hc hcontext

end

/-! ## An SM90 device and an SM100 device -/

/-- A B200. -/
def b200Info : DeviceInfo := ⟨1, 10, 0, 148⟩

/-- An H100 and a B200 with a context each; without a context, the H100. -/
def mixedDevices : Driver where
  Context := Bool
  Kernel := Unit
  Function := Bool
  currentDeviceInfo current := .ok (if current = some true then b200Info else h100)
  getFunction := twoDevices.getFunction
  owner := id
  getFunction_owner := twoDevices.getFunction_owner

/-- A machine on which everything succeeds. -/
def willing : Answers mixedDevices where
  toHost := obliging.toHost
  fault _ := none
  renameRefused := obliging.renameRefused
  loadLibrary _ := .ok [()]

theorem willing_sameMachine : SameMachine obliging.toHost willing := ⟨rfl, fun _ _ h => h⟩

theorem willing_flags (current : Option Bool) : ∃ flags, compilerFlags obligingRoots obliging.toHost
    (mixedDevices.currentDeviceInfo current) (nvccPath obligingRoots obliging.toHost) = .ok flags := by
  unfold compilerFlags
  rw [obliging_version]
  exact ⟨_, rfl⟩

/-- Initialise, build on the first device, switch, build the same kernel on the second. -/
def mixedTrace (first second : Bool) : List (DeviceEvent mixedDevices) :=
  [.init "/dg" "/cuda", .setCurrent (some first), .build willing "kernel" "code",
    .setCurrent (some second), .build willing "kernel" "code"]

/-- What a call that returns adds. -/
theorem record_of_ok {driver : Driver} (run : DeviceRun driver) {answers : Answers driver} {name code : String}
    {runtime : KernelRuntime driver} {process : Process driver}
    (h : buildKernel answers name code run.process = (.ok runtime, process)) : ∃ origins c,
    run.record name code (tracedBuildKernel answers () name code (run.process, run.origins)) =
      { process, origins, configuredOn := configuredAfter run process
        log := ⟨run.process.roots, run.process.current, configuredAfter run process, c⟩ :: run.log } := by
  rcases hr : tracedBuildKernel answers () name code (run.process, run.origins) with ⟨result, after, origins⟩
  obtain ⟨rfl, rfl⟩ := Prod.ext_iff.mp (h.symm.trans (tracedBuildKernel_process hr))
  exact ⟨origins, _, rfl⟩

/-- Initialised, with an empty cache, on a device. -/
def readyOn (device : Bool) : Process mixedDevices :=
  ⟨obligingRoots, none, fun _ => none, some device, Dirs.Store.empty KernelDir.empty⟩

/-- The first call compiles. -/
theorem willing_compiles (first : Bool) : ∃ config built,
    buildKernel willing "kernel" "code" (readyOn first) = (.ok ⟨[()], first⟩, built) ∧
    built.roots = obligingRoots ∧ built.compilerConfigCache = some config ∧ built.current = some first ∧
    built.kernelCache (cacheKey "kernel" config "code") = some ⟨[()], first⟩ := by
  obtain ⟨flags, hflags⟩ := willing_flags (some first)
  let config : CompilerConfig := ⟨nvccPath obligingRoots obliging.toHost, flags⟩
  obtain ⟨key, hkey⟩ : ∃ key, cacheKey "kernel" config "code" = key := ⟨_, rfl⟩
  let root : Path := ⟨"/root", [".deepgemm_rs"]⟩
  have hroot : cacheRoot willing.toHost = .ok root := rfl
  let configured : Process mixedDevices := { readyOn first with compilerConfigCache := some config }
  have hconfig : compilerConfig willing (readyOn first) = (.ok config, configured) :=
    compilerConfig_of_none rfl rfl hflags
  have hbuild := buildKernel_of_compile (t := configured) hkey rfl hconfig hroot (fun _ _ => rfl) rfl rfl rfl
    (show newKernelRuntime willing configured.current _ = .ok ⟨[()], first⟩ from rfl)
  exact ⟨config, _, hbuild, rfl, rfl, rfl, by rw [hkey]; exact Function.update_self ..⟩

/-- From an empty cache, both calls return. -/
theorem mixedTrace_run (first second : Bool) : ∃ K run, Separated K ∧
    Run (DeviceRun.step obliging.toHost) (Admits obliging.toHost K)
      (DeviceRun.start (Dirs.Store.empty KernelDir.empty) fun _ => none) (mixedTrace first second) run ∧
    ∃ c c', run.log = [⟨obligingRoots, some second, some (some first), c⟩,
      ⟨obligingRoots, some first, some (some first), c'⟩] := by
  obtain ⟨config, built, hfirst, hroots, hconfig, hcurrent, hcached⟩ := willing_compiles first
  let K : Set Request := {Request.of "kernel" config "code"}
  have hasks : ∀ process built : Process mixedDevices, built.compilerConfigCache = some config →
      buildKernel willing "kernel" "code" process = (.ok ⟨[()], first⟩, built) →
      ∀ request root, Asks willing "kernel" "code" process request root → request ∈ K := by
    intro process built hconfig hbuild request root hask
    apply Set.mem_singleton_iff.mpr
    apply hask.eq_of_config
    rw [hbuild]
    exact hconfig
  let started : DeviceRun mixedDevices := DeviceRun.start (Dirs.Store.empty KernelDir.empty) fun _ => none
  let initialised : DeviceRun mixedDevices :=
    { started with process := { started.process with roots := obligingRoots } }
  have hinit : started.step obliging.toHost (.init "/dg" "/cuda") = some initialised := by
    simp only [DeviceRun.step, obliging_init]
    rfl
  let ready : DeviceRun mixedDevices := { started with process := readyOn first }
  obtain ⟨origins, c, honce⟩ := record_of_ok ready hfirst
  have hafter : configuredAfter ready built = some (some first) := by
    show Option.map _ built.compilerConfigCache = _
    rw [hconfig]
    rfl
  rw [hafter] at honce
  let switched : DeviceRun mixedDevices := ⟨{ built with current := some second }, origins, some (some first),
    [⟨obligingRoots, some first, some (some first), c⟩]⟩
  have hsecond : buildKernel willing "kernel" "code" switched.process = (.ok ⟨[()], first⟩, switched.process) :=
    buildKernel_of_hit rfl (isInitialized_of_roots hroots) hconfig rfl hcached
  obtain ⟨origins', c', htwice⟩ := record_of_ok switched hsecond
  have hafter' : configuredAfter switched switched.process = some (some first) := by
    show (match built.compilerConfigCache with | some _ => _ | none => _) = _
    rw [hconfig]
    rfl
  rw [hafter'] at htwice
  let twice : DeviceRun mixedDevices := ⟨switched.process, origins', some (some first),
    ⟨built.roots, some second, some (some first), c'⟩ :: switched.log⟩
  refine ⟨K, twice, separated_singleton _, ?_, c', c, ?_⟩
  · apply Run.cons trivial hinit
    apply Run.cons (t := ready) trivial rfl
    apply Run.cons ⟨willing_sameMachine, hasks _ _ hconfig hfirst⟩ (congrArg some honce)
    apply Run.cons (t := switched) trivial rfl
    apply Run.cons ⟨willing_sameMachine, hasks _ switched.process hconfig hsecond⟩ (congrArg some htwice)
    exact Run.nil
  · show [(⟨built.roots, _, _, _⟩ : Served mixedDevices), _] = _
    rw [hroots]

/-- **A kernel for the first device** is handed out on the second, whose architecture is another. -/
theorem switched_not_upToDate : ∃ (K : Set Request) (trace : List (DeviceEvent mixedDevices))
    (run : DeviceRun mixedDevices), Separated K ∧
      Run (DeviceRun.step obliging.toHost) (Admits obliging.toHost K)
        (DeviceRun.start (Dirs.Store.empty KernelDir.empty) fun _ => none) trace run ∧
      ∃ call ∈ run.log, ¬ call.UpToDate obliging.toHost := by
  obtain ⟨K, run, hK, hrun, c, c', hlog⟩ := mixedTrace_run false true
  have hmem : (⟨obligingRoots, some true, some (some false), c⟩ : Served mixedDevices) ∈ run.log := by
    rw [hlog]
    exact List.mem_cons_self
  refine ⟨K, _, run, hK, hrun, _, hmem, ?_⟩
  obtain ⟨c, context, hc, hcontext, hmade⟩ := (configured hK honestDisk_empty hrun).log _ hmem
  rw [hmade.upToDate hc hcontext]
  intro hsame
  have hflag := hsame (some false) rfl
  unfold gpuArchitecture at hflag
  rw [obliging_version] at hflag
  have hvalues : (Except.ok "100f" : Native String) = .ok "90a" := hflag
  exact absurd (Except.ok.inj hvalues) (by decide)

theorem unswitched_upToDate_iff : ∃ (K : Set Request) (run : DeviceRun mixedDevices),
    Run (DeviceRun.step obliging.toHost) (Admits obliging.toHost K)
      (DeviceRun.start (Dirs.Store.empty KernelDir.empty) fun _ => none) (mixedTrace true true) run ∧
    run.log.length = 2 ∧ ((∀ call ∈ run.log, call.UpToDate obliging.toHost) ↔
      ∀ call ∈ run.log, call.SameArchitecture obliging.toHost) := by
  obtain ⟨K, run, hK, hrun, c, c', hlog⟩ := mixedTrace_run true true
  exact ⟨K, run, hrun, by rw [hlog]; rfl, upToDate_iff hK honestDisk_empty hrun⟩

end DeepGemmRs.Jit
