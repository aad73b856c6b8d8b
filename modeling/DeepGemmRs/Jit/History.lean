import DeepGemmRs.Jit.Cache
import DeepGemmRs.Jit.Provenance

/-!
# The cache directory over many processes

Processes that share cache directories, one after the other or side by side, and edits of the headers and of
the toolkits while none of them runs. A call of `build_kernel` is one step; `Publish` takes it apart.

* `Toolchain`, `output` : what `nvcc` reads besides its command line, and what it makes of a request;
* `Worker`, `History`, `History.step` : the processes, the directory, and a log of the calls that returned;
* `History.step_cases` : all that a step can do, `Kept.logs` : what a call that returns adds to the log;
* `Delivery.Sound` : the kernel is what `nvcc` would have made of the request at the `runtime_init`;
* `Delivery.Unedited` : if it was found in the directory, no edit since it was compiled matters to it;
* `Kept`, `kept_of_run` : what every history keeps;
* `sound_iff` : **the calls of a history are `Sound` exactly when they are `Unedited`**;
* `Harmless` : an edit leaves what `nvcc` makes of what is in the directory, `sound_of_harmless`;
* `edited_not_sound` : a header is edited between two processes.
-/

namespace DeepGemmRs.Jit

open Checked Dirs Dirs.Store Runs Stateful Stateful.Prog

/-- The toolkits and the header trees. -/
structure Toolchain (Binary Headers : Type) where
  /-- What is at a path. -/
  binary : String → Binary
  headers : Headers

/-- What `nvcc` makes of a request: a function of its binary, the flags, the code and the headers. -/
def output {Binary Headers Cubin : Type} (compile : Binary → String → String → Headers → Cubin)
    (world : Toolchain Binary Headers) (request : Request) : Cubin :=
  compile (world.binary request.nvcc) request.flags request.code world.headers

/-- A process; of its disk it has a share only. -/
structure Worker (driver : Driver) (W : Type) where
  process : Process driver
  kernels : String → Option (Compilation W)
  /-- The world at the last `runtime_init` that returned. -/
  initWorld : Option W

/-- A call of `build_kernel` that returned. -/
structure Delivery (W : Type) where
  request : Request
  initWorld : Option W
  /-- What the kernel was compiled from. -/
  compilation : Option (Compilation W)
  /-- What the cubin was compiled from, when it was taken from the directory. -/
  found : Option (Compilation W)

structure History (driver : Driver) (W : Type) where
  disk : Disk
  cubins : Nat → Option (Compilation W)
  world : W
  workers : Nat → Option (Worker driver W)
  log : List (Delivery W)

inductive HistoryEvent (driver : Driver) (W : Type) where
  | start (pid : Nat)
  | exit (pid : Nat)
  | setCurrent (pid : Nat) (current : Option driver.Context)
  | init (pid : Nat) (host : Host) (deepgemmRoot cudaHome : String)
  | build (pid : Nat) (answers : Answers driver) (name code : String)
  /-- Headers and toolkits are changed. -/
  | edit (world : W)

section

variable {driver : Driver} {W : Type}

/-- An empty cache directory. -/
def History.empty (world : W) : History driver W where
  disk := Dirs.Store.empty KernelDir.empty
  cubins _ := none
  world
  workers _ := none
  log := []

def Worker.new (disk : Disk) : Worker driver W where
  process := ⟨Roots.empty, none, fun _ => none, none, disk⟩
  kernels _ := none
  initWorld := none

def History.setWorker (history : History driver W) (pid : Nat) (worker : Option (Worker driver W)) :
    History driver W :=
  { history with workers := Function.update history.workers pid worker }

theorem setWorker_workers_self {history : History driver W} {pid : Nat} {worker : Option (Worker driver W)} :
    (history.setWorker pid worker).workers pid = worker := Function.update_self ..

/-- What a call takes from the directory: the key is not in the process, and the cubin is there. -/
def foundCubin (answers : Answers driver) (process : Process driver) (cubins : Nat → Option (Compilation W))
    (request : Request) : Option (Compilation W) :=
  match process.kernelCache request.key, cacheRoot answers.toHost with
  | none, .ok root =>
    if hasCubin process.disk (request.dir root) then (process.disk.node (request.dir root)).bind cubins else none
  | _, _ => none

/-- The process as it finds the directory. -/
def Worker.found (worker : Worker driver W) (disk : Disk) : Process driver := { worker.process with disk }

/-- The history after a call of `build_kernel`; one that returns leaves a configuration. -/
def History.record (history : History driver W) (pid : Nat) (worker : Worker driver W) (answers : Answers driver)
    (name code : String) (result : Except Stop (KernelRuntime driver) × Process driver × Origins W) :
    History driver W where
  disk := result.2.1.disk
  cubins := result.2.2.cubins
  world := history.world
  workers := Function.update history.workers pid
    (some { worker with process := result.2.1, kernels := result.2.2.kernels })
  log := match result.1, result.2.1.compilerConfigCache with
    | .ok _, some config =>
      { request := Request.of name config code, initWorld := worker.initWorld
        compilation := result.2.2.kernels (cacheKey name config code)
        found := foundCubin answers (worker.found history.disk) history.cubins (Request.of name config code) } ::
          history.log
    | _, _ => history.log

def History.step (history : History driver W) : HistoryEvent driver W → Option (History driver W)
  | .start pid =>
    match history.workers pid with
    | some _ => none
    | none => some (history.setWorker pid (some (Worker.new history.disk)))
  | .exit pid => some (history.setWorker pid none)
  | .setCurrent pid current =>
    (history.workers pid).map fun worker =>
      history.setWorker pid (some { worker with process := { worker.process with current } })
  | .init pid host deepgemmRoot cudaHome =>
    (history.workers pid).map fun worker =>
      match runtimeInit host deepgemmRoot cudaHome with
      | .ok roots => history.setWorker pid (some { worker with
          process := { worker.process with roots, compilerConfigCache := none }
          initWorld := some history.world })
      | .error _ => history
  | .build pid answers name code =>
    (history.workers pid).map fun worker =>
      history.record pid worker answers name code
        (tracedBuildKernel answers history.world name code
          (worker.found history.disk, ⟨history.cubins, worker.kernels⟩))
  | .edit world => some { history with world }

/-- A step is a call of `build_kernel`, or leaves the directory and the log. -/
theorem History.step_cases {history next : History driver W} {event : HistoryEvent driver W}
    (hs : history.step event = some next) :
    (next.disk = history.disk ∧ next.cubins = history.cubins ∧ next.log = history.log ∧
      (next.world = history.world ∨ event = .edit next.world)) ∨
    ∃ pid answers name code worker, event = .build pid answers name code ∧ history.workers pid = some worker ∧
      next = history.record pid worker answers name code (tracedBuildKernel answers history.world name code
        (worker.found history.disk, ⟨history.cubins, worker.kernels⟩)) := by
  cases event with
  | start pid =>
    simp only [History.step] at hs
    split at hs
    · cases hs
    · cases hs
      exact .inl ⟨rfl, rfl, rfl, .inl rfl⟩
  | exit pid =>
    cases hs
    exact .inl ⟨rfl, rfl, rfl, .inl rfl⟩
  | setCurrent pid current =>
    obtain ⟨worker, -, rfl⟩ := Option.map_eq_some_iff.mp hs
    exact .inl ⟨rfl, rfl, rfl, .inl rfl⟩
  | init pid host deepgemmRoot cudaHome =>
    obtain ⟨worker, -, rfl⟩ := Option.map_eq_some_iff.mp hs
    split <;> exact .inl ⟨rfl, rfl, rfl, .inl rfl⟩
  | build pid answers name code =>
    obtain ⟨worker, hworker, rfl⟩ := Option.map_eq_some_iff.mp hs
    exact .inr ⟨pid, answers, name, code, worker, rfl, hworker, rfl⟩
  | edit world =>
    cases hs
    exact .inl ⟨rfl, rfl, rfl, .inr rfl⟩

/-- Edits come between processes, and what is asked for is among `K`. -/
def Allowed (K : Set Request) (history : History driver W) : HistoryEvent driver W → Prop
  | .edit _ => ∀ pid, history.workers pid = none
  | .build pid answers name code => ∀ worker request root, history.workers pid = some worker →
    Asks answers name code (worker.found history.disk) request root → request ∈ K
  | _ => True

/-! ## What a history keeps -/

/-- The compilation read what was there at the `runtime_init`, or a call of this request found it. -/
def Accounted (log : List (Delivery W)) (world : W) (c : Compilation W) : Prop :=
  c.world = world ∨ ∃ call ∈ log, call.found = some c ∧ call.initWorld = some world ∧ call.request = c.toRequest

/-- What is accounted for stays so when calls are added. -/
theorem Accounted.mono {log log' : List (Delivery W)} {world : W} {c : Compilation W} (h : Accounted log world c)
    (hlog : ∀ call ∈ log, call ∈ log') : Accounted log' world c := by
  rcases h with h | ⟨call, hcall, hrest⟩
  · exact .inl h
  · exact .inr ⟨call, hlog call hcall, hrest⟩

/-- What the calls of `log` say. -/
def LogKept (log : List (Delivery W)) (call : Delivery W) : Prop :=
  (∃ c w, call.compilation = some c ∧ call.initWorld = some w ∧ c.toRequest = call.request ∧ Accounted log w c) ∧
    ∀ c, call.found = some c → call.compilation = some c

/-- What a process says. -/
structure WorkerKept (K : Set Request) (log : List (Delivery W)) (world : W) (worker : Worker driver W) : Prop where
  kernels : HonestKernels K worker.process.kernelCache worker.kernels
  /-- The world has not changed since. -/
  ready : worker.process.roots = Roots.empty ∨ worker.initWorld = some world
  origin : ∀ key c, worker.kernels key = some c → Accounted log world c

structure Kept (K : Set Request) (history : History driver W) : Prop where
  disk : HonestDisk K history.disk history.cubins
  workers : ∀ pid worker, history.workers pid = some worker → WorkerKept K history.log history.world worker
  log : ∀ call ∈ history.log, LogKept history.log call

variable {K : Set Request} {history next : History driver W} {pid : Nat} {worker : Worker driver W}

theorem Kept.empty {world : W} : Kept K (History.empty world : History driver W) where
  disk := honestDisk_empty
  workers := nofun
  log := nofun

/-- A step of one process. -/
theorem Kept.change (h : Kept K history) (pid : Nat) {after : Option (Worker driver W)}
    (hworld : next.world = history.world) (hworkers : next.workers = Function.update history.workers pid after)
    (hdisk : HonestDisk K next.disk next.cubins) (hmono : ∀ call ∈ history.log, call ∈ next.log)
    (hafter : ∀ worker, after = some worker → WorkerKept K next.log next.world worker)
    (hlog : ∀ call ∈ next.log, call ∈ history.log ∨ LogKept next.log call) : Kept K next := by
  refine ⟨hdisk, ?_, ?_⟩
  · intro pid' worker hworker
    rw [hworkers] at hworker
    by_cases hpid : pid' = pid
    · rw [hpid, Function.update_self] at hworker
      exact hafter worker hworker
    · rw [Function.update_of_ne hpid] at hworker
      have hold := h.workers pid' worker hworker
      refine ⟨hold.kernels, hworld ▸ hold.ready, ?_⟩
      intro key c hc
      rw [hworld]
      exact (hold.origin key c hc).mono hmono
  · intro call hcall
    rcases hlog call hcall with hold | hnew
    · obtain ⟨⟨c, w, hc, hw, hrequest, haccounted⟩, hfound⟩ := h.log call hold
      exact ⟨⟨c, w, hc, hw, hrequest, haccounted.mono hmono⟩, hfound⟩
    · exact hnew

/-- A step that changes one process only. -/
theorem Kept.setWorker (h : Kept K history) {after : Option (Worker driver W)}
    (hafter : ∀ worker, after = some worker → WorkerKept K history.log history.world worker) :
    Kept K (history.setWorker pid after) :=
  h.change pid rfl rfl h.disk (fun _ hcall => hcall) hafter fun _ hcall => .inl hcall

/-- What a call finds. -/
theorem WorkerKept.honest (hworker : WorkerKept K history.log history.world worker) (h : Kept K history) :
    Honest K (worker.found history.disk, ⟨history.cubins, worker.kernels⟩) := ⟨h.disk, hworker.kernels⟩

/-- A process that is initialised knows the world. -/
theorem WorkerKept.initWorld {log : List (Delivery W)} {world : W} (h : WorkerKept K log world worker) {disk : Disk}
    (hinitialized : (worker.found disk).isInitialized) : worker.initWorld = some world := by
  rcases h.ready with hroots | hinit
  · have hbefore : (worker.found disk).roots = Roots.empty := hroots
    rw [Process.isInitialized, hbefore] at hinitialized
    cases hinitialized
  · exact hinit

/-- A call that throws. -/
theorem Kept.stops (hK : Separated K) (h : Kept K history) (hworker : history.workers pid = some worker)
    {answers : Answers driver} {name code : String}
    (hasks : ∀ request root, Asks answers name code (worker.found history.disk) request root → request ∈ K)
    {e : Stop} {process : Process driver} {origins : Origins W}
    (hr : tracedBuildKernel answers history.world name code
      (worker.found history.disk, ⟨history.cubins, worker.kernels⟩) = (.error e, process, origins)) :
    Kept K (history.record pid worker answers name code (.error e, process, origins)) := by
  have hold := h.workers pid worker hworker
  obtain ⟨hend, hkernels⟩ := tracedBuildKernel_stops hK (hold.honest h) hasks hr
  have hroots : process.roots = worker.process.roots := tracedBuildKernel_roots hr
  refine h.change pid rfl rfl hend.disk (fun _ hcall => hcall) ?_ fun _ hcall => .inl hcall
  intro worker' hnew
  obtain rfl := Option.some_inj.mp hnew
  exact ⟨hend.kernels, hroots ▸ hold.ready, fun key c hc => hold.origin key c ((congrFun hkernels key).symm.trans hc)⟩

/-- A call that found a cubin took it. -/
theorem Came.found {answers : Answers driver} {root : Path} {request : Request} {s t : Process driver × Origins W}
    {world : W} {c : Compilation W} (hroot : cacheRoot answers.toHost = .ok root)
    (h : Came world root request s t c) :
    foundCubin answers s.1 s.2.cubins request = some c ∨ foundCubin answers s.1 s.2.cubins request = none ∧
      (s.2.kernels request.key = some c ∨ c.world = world) := by
  unfold foundCubin
  cases h with
  | cached hhit h =>
    obtain ⟨runtime, hruntime⟩ := Option.ne_none_iff_exists'.mp hhit
    refine .inr ⟨?_, .inl h⟩
    simp only [hruntime]
  | loaded hmiss hcubin h =>
    obtain ⟨d, hd, hc⟩ := h
    left
    simp only [hmiss, hroot, hcubin, if_true, hd, Option.bind_some, hc]
  | compiled hmiss hcubin =>
    refine .inr ⟨?_, .inr rfl⟩
    simp only [hmiss, hroot, hcubin, Bool.false_eq_true, if_false]

/-- A call that returns adds itself to the log, with what it was given and what it found. -/
theorem Kept.logs (hK : Separated K) (h : Kept K history) (hworker : history.workers pid = some worker)
    {answers : Answers driver} {name code : String}
    (hasks : ∀ request root, Asks answers name code (worker.found history.disk) request root → request ∈ K)
    {runtime : KernelRuntime driver} {process : Process driver} {origins : Origins W}
    (hr : tracedBuildKernel answers history.world name code
      (worker.found history.disk, ⟨history.cubins, worker.kernels⟩) = (.ok runtime, process, origins)) :
    Honest K (process, origins) ∧ worker.initWorld = some history.world ∧ ∃ request root c, request ∈ K ∧
      cacheRoot answers.toHost = .ok root ∧ c.toRequest = request ∧
      Came history.world root request (worker.found history.disk, ⟨history.cubins, worker.kernels⟩)
        (process, origins) c ∧
      (history.record pid worker answers name code (.ok runtime, process, origins)).log =
        ⟨request, some history.world, some c, foundCubin answers (worker.found history.disk) history.cubins request⟩ ::
          history.log := by
  have hold := h.workers pid worker hworker
  obtain ⟨hend, request, root, c, hask, hcame, hc⟩ := tracedBuildKernel_returns hK (hold.honest h) hasks hr
  have hmem := hasks request root hask
  obtain ⟨config, hasked, rfl⟩ := hask.remembers
  have hconfig : process.compilerConfigCache = some config := by rwa [tracedBuildKernel_process hr] at hasked
  obtain ⟨_, _, hprepare, -⟩ := hask
  obtain ⟨hinitialized, -, hroot⟩ := prepare_returns hprepare
  have hinit : worker.initWorld = some history.world := hold.initWorld hinitialized
  have hkernel : origins.kernels (cacheKey name config code) = some c := hcame.kernels
  refine ⟨hend, hinit, Request.of name config code, root, c, hmem, hroot, hc, hcame, ?_⟩
  simp only [History.record, hconfig, hinit, hkernel]

/-- A call that returns. -/
theorem Kept.returns (hK : Separated K) (h : Kept K history) (hworker : history.workers pid = some worker)
    {answers : Answers driver} {name code : String}
    (hasks : ∀ request root, Asks answers name code (worker.found history.disk) request root → request ∈ K)
    {runtime : KernelRuntime driver} {process : Process driver} {origins : Origins W}
    (hr : tracedBuildKernel answers history.world name code
      (worker.found history.disk, ⟨history.cubins, worker.kernels⟩) = (.ok runtime, process, origins)) :
    Kept K (history.record pid worker answers name code (.ok runtime, process, origins)) := by
  have hold := h.workers pid worker hworker
  obtain ⟨hend, hinit, request, root, c, -, hroot, hc, hcame, hlog⟩ := h.logs hK hworker hasks hr
  have haccounted : Accounted
      (history.record pid worker answers name code (.ok runtime, process, origins)).log history.world c := by
    rw [hlog]
    rcases hcame.found hroot with hfound | ⟨-, hkernel | hworld⟩
    · exact .inr ⟨_, List.mem_cons_self, hfound, rfl, hc.symm⟩
    · exact (hold.origin _ c hkernel).mono fun _ => List.mem_cons_of_mem _
    · exact .inl hworld
  refine h.change pid rfl rfl hend.disk ?_ ?_ ?_
  · intro call hcall
    rw [hlog]
    exact List.mem_cons_of_mem _ hcall
  · intro worker' hnew
    obtain rfl := Option.some_inj.mp hnew
    refine ⟨hend.kernels, .inr hinit, ?_⟩
    intro key c' hc'
    rcases hcame.kernels_cases hc' with rfl | hbefore
    · exact haccounted
    · rw [hlog]
      exact (hold.origin key c' hbefore).mono fun _ => List.mem_cons_of_mem _
  · intro call hcall
    rw [hlog] at hcall
    rcases List.mem_cons.mp hcall with rfl | hold
    · refine .inr ⟨⟨c, history.world, rfl, rfl, hc, haccounted⟩, ?_⟩
      intro c' hfound'
      rcases hcame.found hroot with hfound | ⟨hfound, -⟩
      · exact congrArg some (Option.some_inj.mp (hfound.symm.trans hfound'))
      · cases hfound.symm.trans hfound'
    · exact .inl hold

theorem Kept.step (hK : Separated K) (h : Kept K history) {event : HistoryEvent driver W}
    (hallowed : Allowed K history event) (hs : history.step event = some next) : Kept K next := by
  cases event with
  | start pid =>
    simp only [History.step] at hs
    split at hs
    · cases hs
    · cases hs
      apply h.setWorker
      intro worker hnew
      obtain rfl := Option.some_inj.mp hnew
      exact ⟨nofun, .inl rfl, nofun⟩
  | exit pid =>
    cases hs
    exact h.setWorker nofun
  | setCurrent pid current =>
    obtain ⟨worker, hworker, rfl⟩ := Option.map_eq_some_iff.mp hs
    apply h.setWorker
    intro worker' hnew
    obtain rfl := Option.some_inj.mp hnew
    have hold := h.workers pid worker hworker
    exact ⟨hold.kernels, hold.ready, hold.origin⟩
  | init pid host deepgemmRoot cudaHome =>
    obtain ⟨worker, hworker, rfl⟩ := Option.map_eq_some_iff.mp hs
    split
    · apply h.setWorker
      intro worker' hnew
      obtain rfl := Option.some_inj.mp hnew
      have hold := h.workers pid worker hworker
      exact ⟨hold.kernels, .inr rfl, hold.origin⟩
    · exact h
  | build pid answers name code =>
    obtain ⟨worker, hworker, rfl⟩ := Option.map_eq_some_iff.mp hs
    have hasks := fun request root => hallowed worker request root hworker
    rcases hr : tracedBuildKernel answers history.world name code
      (worker.found history.disk, ⟨history.cubins, worker.kernels⟩) with ⟨e | runtime, process, origins⟩
    · exact h.stops hK hworker hasks hr
    · exact h.returns hK hworker hasks hr
  | edit world =>
    cases hs
    refine ⟨h.disk, ?_, h.log⟩
    intro pid worker hworker
    cases (hallowed pid).symm.trans hworker

/-- Every history keeps that. -/
theorem kept_of_run (hK : Separated K) {world : W} {trace : List (HistoryEvent driver W)}
    (h : Run History.step (Allowed K) (History.empty world : History driver W) trace history) : Kept K history :=
  h.invariant Kept.empty fun _ _ _ ht hallowed hs => ht.step hK hallowed hs

end

section

variable {driver : Driver} {Binary Headers Cubin : Type}

/-- The kernel is the one that `nvcc` makes of the request in the world of the `runtime_init`. -/
def Delivery.Sound (compile : Binary → String → String → Headers → Cubin)
    (call : Delivery (Toolchain Binary Headers)) : Prop :=
  ∃ c world, call.compilation = some c ∧ call.initWorld = some world ∧
    output compile c.world c.toRequest = output compile world call.request

/-- The world in which the cubin found in the directory was compiled makes of the request what the world of the
`runtime_init` does. -/
def Delivery.Unedited (compile : Binary → String → String → Headers → Cubin)
    (call : Delivery (Toolchain Binary Headers)) : Prop :=
  ∀ c world, call.found = some c → call.initWorld = some world →
    output compile c.world call.request = output compile world call.request

/-- Nothing else can part a kernel from its request. -/
theorem Kept.sound {compile : Binary → String → String → Headers → Cubin} {K : Set Request}
    {history : History driver (Toolchain Binary Headers)} (hkept : Kept K history)
    (hall : ∀ call ∈ history.log, call.Unedited compile) : ∀ call ∈ history.log, call.Sound compile := by
  intro call hcall
  obtain ⟨⟨c, world, hc, hinit, hrequest, haccounted⟩, -⟩ := hkept.log call hcall
  refine ⟨c, world, hc, hinit, ?_⟩
  rw [hrequest]
  rcases haccounted with hworld | ⟨call', hcall', hfound, hinit', hrequest'⟩
  · rw [hworld]
  · have hunedited := hall call' hcall' c world hfound hinit'
    rwa [hrequest', hrequest] at hunedited

/-- **The kernels of a history are sound** exactly when no edit matters to a cubin between its compilation and
the `runtime_init` of a process that takes it from the directory. -/
theorem sound_iff (compile : Binary → String → String → Headers → Cubin) {K : Set Request} (hK : Separated K)
    {world : Toolchain Binary Headers} {trace : List (HistoryEvent driver (Toolchain Binary Headers))}
    {history : History driver (Toolchain Binary Headers)}
    (h : Run History.step (Allowed K) (History.empty world) trace history) :
    (∀ call ∈ history.log, call.Sound compile) ↔ ∀ call ∈ history.log, call.Unedited compile := by
  have hkept := kept_of_run hK h
  refine ⟨?_, hkept.sound⟩
  intro hall call hcall c world hfound hinit
  obtain ⟨⟨c', world', hc', hinit', hrequest, -⟩, hsame⟩ := hkept.log call hcall
  obtain ⟨c'', world'', hc'', hinit'', hsound⟩ := hall call hcall
  obtain rfl := Option.some_inj.mp ((hsame c hfound).symm.trans hc')
  obtain rfl := Option.some_inj.mp ((hsame c hfound).symm.trans hc'')
  obtain rfl := Option.some_inj.mp (hinit.symm.trans hinit'')
  rwa [hrequest] at hsound

/-! ## Edits that matter to nothing in the directory -/

/-- An edit leaves what `nvcc` makes of every request whose cubin is in the directory. -/
def Harmless (compile : Binary → String → String → Headers → Cubin) (K : Set Request)
    (history : History driver (Toolchain Binary Headers)) : HistoryEvent driver (Toolchain Binary Headers) → Prop
  | .edit world => ∀ request ∈ K, ∀ root, hasCubin history.disk (request.dir root) →
    output compile world request = output compile history.world request
  | _ => True

/-- `nvcc` would make the same of the request in `world`. -/
def MadeAlike (compile : Binary → String → String → Headers → Cubin) (world : Toolchain Binary Headers)
    (request : Request) (c : Compilation (Toolchain Binary Headers)) : Prop :=
  output compile c.world request = output compile world request

/-- What was compiled into the directory is what `nvcc` would make now, and so was what was found there. -/
structure Current (compile : Binary → String → String → Headers → Cubin) (K : Set Request)
    (history : History driver (Toolchain Binary Headers)) : Prop where
  disk : DiskHolds K (MadeAlike compile history.world) history.disk history.cubins
  log : ∀ call ∈ history.log, call.Unedited compile

/-- A cubin that is found is that of the directory. -/
theorem foundCubin_eq_some {W : Type} {answers : Answers driver} {process : Process driver}
    {cubins : Nat → Option (Compilation W)} {request : Request} {c : Compilation W}
    (h : foundCubin answers process cubins request = some c) : ∃ root d,
    process.disk.node (request.dir root) = some d ∧ (process.disk.content d).cubin ≠ none ∧ cubins d = some c := by
  unfold foundCubin at h
  split at h
  · next root _ _ =>
    split at h
    · next hcubin =>
      obtain ⟨d, hd, hcontent⟩ := hasCubin_iff.mp hcubin
      rw [hd, Option.bind_some] at h
      exact ⟨root, d, hd, hcontent, h⟩
    · cases h
  · cases h

theorem Current.step {compile : Binary → String → String → Headers → Cubin} {K : Set Request} (hK : Separated K)
    {history next : History driver (Toolchain Binary Headers)} (hkept : Kept K history) (h : Current compile K history)
    {event : HistoryEvent driver (Toolchain Binary Headers)} (hallowed : Allowed K history event)
    (hharmless : Harmless compile K history event) (hs : history.step event = some next) : Current compile K next := by
  rcases History.step_cases hs with ⟨hdisk, hcubins, hlog, hworld⟩ |
    ⟨pid, answers, name, code, worker, rfl, hworker, rfl⟩
  · refine ⟨?_, hlog ▸ h.log⟩
    rw [hdisk, hcubins]
    intro request hr root d hd hcubin
    obtain ⟨c, hc, halike⟩ := h.disk request hr root d hd hcubin
    refine ⟨c, hc, halike.trans ?_⟩
    rcases hworld with hworld | rfl
    · rw [hworld]
    · exact (hharmless request hr root (hasCubin_iff.mpr ⟨d, hd, hcubin⟩)).symm
  · have hasks := fun request root => hallowed worker request root hworker
    have hdisk : Stocked K (MadeAlike compile history.world) (tracedBuildKernel answers history.world name code
        (worker.found history.disk, ⟨history.cubins, worker.kernels⟩)).2 :=
      tracedBuildKernel_holds hK (fun _ _ => rfl) h.disk hasks
    rcases hr : tracedBuildKernel answers history.world name code
      (worker.found history.disk, ⟨history.cubins, worker.kernels⟩) with ⟨e | runtime, process, origins⟩
    · rw [hr] at hdisk
      exact ⟨hdisk, h.log⟩
    · obtain ⟨-, -, request, _, _, hmem, -, -, -, hlog⟩ := hkept.logs hK hworker hasks hr
      rw [hr] at hdisk
      refine ⟨hdisk, ?_⟩
      rw [hlog]
      refine List.forall_mem_cons.mpr ⟨?_, h.log⟩
      -- what it found was there before the call
      intro c world hfound hinit
      obtain rfl := Option.some_inj.mp hinit
      obtain ⟨root, d, hd, hcubin, hc⟩ := foundCubin_eq_some hfound
      obtain ⟨c', hc', halike⟩ := h.disk request hmem root d hd hcubin
      obtain rfl := Option.some_inj.mp (hc'.symm.trans hc)
      exact halike

/-- **While no edit matters to what is in the directory**, every kernel of a history is sound. -/
theorem sound_of_harmless {compile : Binary → String → String → Headers → Cubin} {K : Set Request} (hK : Separated K)
    {world : Toolchain Binary Headers} {trace : List (HistoryEvent driver (Toolchain Binary Headers))}
    {history : History driver (Toolchain Binary Headers)}
    (h : Run History.step (fun history event => Allowed K history event ∧ Harmless compile K history event)
      (History.empty world) trace history) : ∀ call ∈ history.log, call.Sound compile := by
  have hboth : Kept K history ∧ Current compile K history := by
    apply h.invariant (P := fun history => Kept K history ∧ Current compile K history)
    · exact ⟨Kept.empty, diskHolds_empty, nofun⟩
    · intro t event u ht hevent hs
      exact ⟨ht.1.step hK hevent.1 hs, ht.2.step hK ht.1 hevent.1 hevent.2 hs⟩
  exact hboth.1.sound hboth.2.log

end

/-! ## An edit between two processes -/

/-- Initialised, on the first device. -/
def obligingProcess (disk : Disk) : Process twoDevices := ⟨obligingRoots, none, fun _ => none, some true, disk⟩

/-- The first call compiles, and the cubin stays. -/
theorem obliging_compiles : ∃ config built,
    buildKernel obliging "kernel" "code" (obligingProcess (Dirs.Store.empty KernelDir.empty)) =
      (.ok ⟨[()], true⟩, built) ∧
    built.compilerConfigCache = some config ∧
    hasCubin built.disk ((Request.of "kernel" config "code").dir ⟨"/root", [".deepgemm_rs"]⟩) ∧
    ∀ disk, compilerConfig obliging (obligingProcess disk) =
      (.ok config, { obligingProcess disk with compilerConfigCache := some config }) := by
  obtain ⟨flags, hflags⟩ := obliging_flags
  let config : CompilerConfig := ⟨nvccPath obligingRoots obliging.toHost, flags⟩
  let root : Path := ⟨"/root", [".deepgemm_rs"]⟩
  have hroot : cacheRoot obliging.toHost = .ok root := rfl
  have hconfig : ∀ disk, compilerConfig obliging (obligingProcess disk) =
      (.ok config, { obligingProcess disk with compilerConfigCache := some config }) :=
    fun disk => compilerConfig_of_none rfl rfl hflags
  obtain ⟨key, hkey⟩ : ∃ key, cacheKey "kernel" config "code" = key := ⟨_, rfl⟩
  have hbuild := buildKernel_of_compile hkey rfl (hconfig (Dirs.Store.empty KernelDir.empty)) hroot (fun _ _ => rfl)
    rfl rfl rfl (show newKernelRuntime obliging (some true) _ = .ok ⟨[()], true⟩ from rfl)
  subst hkey
  exact ⟨config, _, hbuild, rfl, hasCubin_published, hconfig⟩

/-- A call of a process, and what it leaves. -/
theorem History.step_build {driver : Driver} {W : Type} {history : History driver W} {pid : Nat}
    {worker : Worker driver W} {answers : Answers driver} {name code : String} {runtime : KernelRuntime driver}
    {process : Process driver} (hworker : history.workers pid = some worker)
    (h : buildKernel answers name code (worker.found history.disk) = (.ok runtime, process)) : ∃ origins,
    Returns (tracedBuildKernel answers history.world name code)
      (worker.found history.disk, ⟨history.cubins, worker.kernels⟩) runtime (process, origins) ∧
    history.step (.build pid answers name code) =
      some (history.record pid worker answers name code (.ok runtime, process, origins)) := by
  rcases hr : tracedBuildKernel answers history.world name code
    (worker.found history.disk, ⟨history.cubins, worker.kernels⟩) with ⟨result, after, origins⟩
  obtain ⟨rfl, rfl⟩ := Prod.ext_iff.mp (h.symm.trans (tracedBuildKernel_process hr))
  refine ⟨origins, hr, ?_⟩
  simp only [History.step, hworker, Option.map_some, hr]

/-- A process begins. -/
def beginTrace {W : Type} (pid : Nat) : List (HistoryEvent twoDevices W) :=
  [.start pid, .init pid obliging.toHost "/dg" "/cuda", .setCurrent pid (some true)]

theorem beginTrace_run {W : Type} {K : Set Request} {history : History twoDevices W} {pid : Nat}
    (hnone : history.workers pid = none) : Run History.step (Allowed K) history (beginTrace pid)
      (history.setWorker pid (some ⟨obligingProcess history.disk, fun _ => none, some history.world⟩)) := by
  have hset : ∀ worker worker' : Option (Worker twoDevices W),
      (history.setWorker pid worker).setWorker pid worker' = history.setWorker pid worker' := by
    intro worker worker'
    unfold History.setWorker
    rw [Function.update_idem]
  let started : Worker twoDevices W := Worker.new history.disk
  let initialised : Worker twoDevices W :=
    { started with process := { started.process with roots := obligingRoots }, initWorld := some history.world }
  have hstart : history.step (.start pid) = some (history.setWorker pid (some started)) := by
    simp only [History.step, hnone]
    rfl
  have hinit : (history.setWorker pid (some started)).step (.init pid obliging.toHost "/dg" "/cuda") =
      some (history.setWorker pid (some initialised)) := by
    simp only [History.step, setWorker_workers_self, Option.map_some, obliging_init, hset]
    rfl
  have hcurrent : (history.setWorker pid (some initialised)).step (.setCurrent pid (some true)) =
      some (history.setWorker pid (some ⟨obligingProcess history.disk, fun _ => none, some history.world⟩)) := by
    simp only [History.step, setWorker_workers_self, Option.map_some, hset]
    rfl
  exact Run.cons trivial hstart (Run.cons trivial hinit (Run.cons trivial hcurrent Run.nil))

/-- One process builds a kernel, another asks for it after an edit. -/
def editTrace {Binary Headers : Type} (edited : Toolchain Binary Headers) :
    List (HistoryEvent twoDevices (Toolchain Binary Headers)) :=
  beginTrace 1 ++ [.build 1 obliging "kernel" "code", .exit 1, .edit edited] ++ beginTrace 2 ++
    [.build 2 obliging "kernel" "code"]

/-- A process that has begun. -/
def begun {W : Type} (disk : Disk) (world : W) : Worker twoDevices W :=
  ⟨obligingProcess disk, fun _ => none, some world⟩

/-- What both processes ask for. -/
theorem obliging_asks {W : Type} {history : History twoDevices W} {pid : Nat} {disk : Disk}
    {config : CompilerConfig} (hworker : history.workers pid = some (begun disk history.world))
    (hconfigs : ∀ disk, compilerConfig obliging (obligingProcess disk) =
      (.ok config, { obligingProcess disk with compilerConfigCache := some config })) :
    Allowed {Request.of "kernel" config "code"} history (.build pid obliging "kernel" "code") := by
  rintro worker request root hworker' ⟨config', t, hprepare, rfl⟩
  obtain rfl := Option.some_inj.mp (hworker.symm.trans hworker')
  have hmade := (prepare_returns hprepare).2.1
  cases (hconfigs history.disk).symm.trans hmade
  exact Set.mem_singleton _

/-- The first call, with an empty directory. -/
theorem obliging_first {W : Type} (world : W) :
    let started := (History.empty world).setWorker 1 (some (begun (Dirs.Store.empty KernelDir.empty) world))
    ∃ config next, started.step (.build 1 obliging "kernel" "code") = some next ∧ next.world = world ∧
      (∀ pid, pid ≠ 1 → next.workers pid = none) ∧
      (∃ d, next.disk.node ((Request.of "kernel" config "code").dir ⟨"/root", [".deepgemm_rs"]⟩) = some d ∧
        (next.disk.content d).cubin ≠ none ∧ next.cubins d = some ⟨Request.of "kernel" config "code", world⟩) ∧
      ∀ disk, compilerConfig obliging (obligingProcess disk) =
        (.ok config, { obligingProcess disk with compilerConfigCache := some config }) := by
  intro started
  obtain ⟨config, built, hbuild, hconfig, hcubin, hconfigs⟩ := obliging_compiles
  let request : Request := Request.of "kernel" config "code"
  have hworker : started.workers 1 = some (begun (Dirs.Store.empty KernelDir.empty) world) :=
    setWorker_workers_self
  obtain ⟨origins, hr, hstep⟩ := History.step_build hworker hbuild
  have hhonest : Honest {request} ((begun (Dirs.Store.empty KernelDir.empty) world).found started.disk,
      ⟨started.cubins, fun _ => none⟩) := ⟨honestDisk_empty, nofun⟩
  obtain ⟨-, request', root, c, hask, hcame, -⟩ := tracedBuildKernel_returns (separated_singleton request) hhonest
    (fun request root => obliging_asks hworker hconfigs _ request root hworker) hr
  obtain rfl : request' = request := obliging_asks hworker hconfigs _ request' root hworker hask
  obtain ⟨_, _, hprepare, -⟩ := hask
  obtain rfl : root = ⟨"/root", [".deepgemm_rs"]⟩ := (Except.ok.inj (prepare_returns hprepare).2.2).symm
  refine ⟨config, _, hstep, rfl, ?_, ?_, hconfigs⟩
  · intro pid hpid
    exact (Function.update_of_ne hpid ..).trans (Function.update_of_ne hpid ..)
  · obtain ⟨d, hd, hcontent⟩ := hasCubin_iff.mp hcubin
    refine ⟨d, hd, hcontent, ?_⟩
    cases hcame with
    | cached hhit => exact absurd rfl hhit
    | loaded _ hcubin => cases hcubin
    | compiled _ _ hend =>
      obtain ⟨d', hd', hnote⟩ := hend
      obtain rfl := Option.some_inj.mp (hd.symm.trans hd')
      exact hnote

/-- The second call, with the cubin in the directory. -/
theorem obliging_second {W : Type} {history : History twoDevices W} {config : CompilerConfig}
    {c : Compilation W} {d : Nat} (hworker : history.workers 2 = some (begun history.disk history.world))
    (hconfigs : ∀ disk, compilerConfig obliging (obligingProcess disk) =
      (.ok config, { obligingProcess disk with compilerConfigCache := some config }))
    (hd : history.disk.node ((Request.of "kernel" config "code").dir ⟨"/root", [".deepgemm_rs"]⟩) = some d)
    (hcubin : (history.disk.content d).cubin ≠ none) (hc : history.cubins d = some c) :
    ∃ next compilation, history.step (.build 2 obliging "kernel" "code") = some next ∧
      next.log = ⟨Request.of "kernel" config "code", some history.world, compilation, some c⟩ :: history.log := by
  have hpresent := hasCubin_iff.mpr ⟨d, hd, hcubin⟩
  obtain ⟨key, hkey⟩ : ∃ key, cacheKey "kernel" config "code" = key := ⟨_, rfl⟩
  have hbuild := buildKernel_of_disk hkey rfl (hconfigs history.disk) (show cacheRoot obliging.toHost = .ok _ from rfl)
    rfl rfl (by rw [← hkey]; exact hpresent)
    (show newKernelRuntime obliging (some true) _ = .ok ⟨[()], true⟩ from rfl)
  obtain ⟨origins, hr, hstep⟩ := History.step_build hworker hbuild
  refine ⟨_, origins.kernels (cacheKey "kernel" config "code"), hstep, ?_⟩
  have hfound : foundCubin obliging ((begun history.disk history.world).found history.disk) history.cubins
      (Request.of "kernel" config "code") = some c := by
    refine (if_pos hpresent).trans (Eq.trans ?_ hc)
    exact congrArg (Option.bind · history.cubins) hd
  show (⟨_, _, _, foundCubin obliging _ _ _⟩ : Delivery W) :: _ = _
  rw [hfound]
  rfl

/-- The second process takes the cubin of the first. -/
theorem editTrace_run {Binary Headers : Type} (world edited : Toolchain Binary Headers) : ∃ K history request,
    Separated K ∧ Run History.step (Allowed K) (History.empty world) (editTrace edited) history ∧
      ∃ compilation, (⟨request, some edited, compilation, some ⟨request, world⟩⟩ : Delivery _) ∈ history.log := by
  obtain ⟨config, built, hfirst, hworld, hnone, ⟨d, hd, hcubin, hc⟩, hconfigs⟩ := obliging_first world
  let changed : History twoDevices (Toolchain Binary Headers) := { built.setWorker 1 none with world := edited }
  have hleft : ∀ pid, (built.setWorker 1 none).workers pid = none := by
    intro pid
    by_cases hpid : pid = 1
    · rw [hpid, setWorker_workers_self]
    · exact (Function.update_of_ne hpid ..).trans (hnone pid hpid)
  let restarted := changed.setWorker 2 (some (begun changed.disk edited))
  have hworker : restarted.workers 2 = some (begun restarted.disk edited) := setWorker_workers_self
  obtain ⟨last, compilation, hsecond, hlog⟩ := obliging_second hworker hconfigs hd hcubin hc
  let K : Set Request := {Request.of "kernel" config "code"}
  refine ⟨K, last, Request.of "kernel" config "code", separated_singleton _, ?_, compilation, ?_⟩
  · have hbegin : Run History.step (Allowed K) (History.empty world) (beginTrace 1) _ := beginTrace_run rfl
    have hedit : Run History.step (Allowed K) (built.setWorker 1 none) [.edit edited] changed :=
      Run.cons hleft rfl Run.nil
    have hexit : Run History.step (Allowed K) built [.exit 1, .edit edited] changed := Run.cons trivial rfl hedit
    have hbuild := Run.cons (C := Allowed K) (obliging_asks setWorker_workers_self hconfigs) hfirst hexit
    have hagain : Run History.step (Allowed K) changed (beginTrace 2) restarted := beginTrace_run (hleft 2)
    have hend := Run.cons (C := Allowed K) (obliging_asks hworker hconfigs) hsecond Run.nil
    exact ((hbegin.append hbuild).append hagain).append hend
  · rw [hlog]
    exact List.mem_cons_self

/-- An `nvcc` that puts the headers before the code. -/
def expand (_ : Unit) (_ code headers : String) : String := headers ++ code

def checkout (headers : String) : Toolchain Unit String := ⟨fun _ => (), headers⟩

/-- **The kernel of the old headers** is handed out after they were edited. -/
theorem edited_not_sound : ∃ (K : Set Request) (history : History twoDevices (Toolchain Unit String)),
    Separated K ∧
      Run History.step (Allowed K) (History.empty (checkout "#define WIDTH 1\n"))
        (editTrace (checkout "#define WIDTH 2\n")) history ∧
      ∃ call ∈ history.log, ¬ call.Sound expand := by
  obtain ⟨K, history, request, hK, hrun, compilation, hmem⟩ :=
    editTrace_run (checkout "#define WIDTH 1\n") (checkout "#define WIDTH 2\n")
  refine ⟨K, history, hK, hrun, _, hmem, ?_⟩
  rintro ⟨c, world, hc, hworld, hsame⟩
  obtain rfl := Option.some_inj.mp (hc.symm.trans (((kept_of_run hK hrun).log _ hmem).2 _ rfl))
  obtain rfl := Option.some_inj.mp hworld
  have hheaders : "#define WIDTH 1\n" ++ request.code = "#define WIDTH 2\n" ++ request.code := hsame
  exact absurd (String.append_left_inj _ |>.mp hheaders) (by decide)

/-- Two processes, and no edit that matters. -/
theorem unedited_sound_iff : ∃ (K : Set Request) (history : History twoDevices (Toolchain Unit String)),
    Run History.step (Allowed K) (History.empty (checkout "")) (editTrace (checkout "")) history ∧
      history.log ≠ [] ∧
      ((∀ call ∈ history.log, call.Sound expand) ↔ ∀ call ∈ history.log, call.Unedited expand) := by
  obtain ⟨K, history, request, hK, hrun, compilation, hmem⟩ := editTrace_run (checkout "") (checkout "")
  exact ⟨K, history, hrun, List.ne_nil_of_mem hmem, sound_iff expand hK hrun⟩

end DeepGemmRs.Jit
