import DeepGemmRs.Jit.History
import DeepGemmRs.Raw.Builds

/-!
# From the texts to the launches

What `build_kernel` hands out for a launch, when all that is asked for are kernels of the library: the texts tell
their kernels, the keys tell the texts, and the directory keeps what was compiled.

* `Writes` : a request asks for this kernel;
* `Request.Ours` : a request for some kernel of the library;
* `Fitting` : a launch takes what the kernel was written for;
* `asked_of_run` : what a history logs was asked for;
* `delivered_takes` : **every kernel that a history hands out was compiled from the text of one kernel of the
  library, and a launch that asks for it is a launch of that kernel, with the resources it takes**.
-/

namespace DeepGemmRs.Jit

open Checked Dirs Dirs.Store Runs Stateful Streamed
open Raw (KernelText KernelFamily printer)

/-- `build_kernel` is called with the name and the text of the kernel. -/
def Writes (request : Request) (kernel : KernelText) : Prop :=
  request.name = kernel.name ∧ ∃ s, kernel.code = .ok s ∧ request.code = printer.render s

/-- A request for a kernel of the library. -/
def Request.Ours (request : Request) : Prop := ∃ kernel : KernelText, kernel.Accepted ∧ Writes request kernel

/-- The launch is of this kernel and takes what its text was written for; for the SM100 scheduler, whose text leaves
out the batch, the shared memory that the batch of the request takes. -/
structure Fitting (kernel : KernelText) (request : Raw.Request) (build : Raw.Build) : Prop where
  text : build.text = kernel
  resources : kernel.family ≠ .sm100Metadata → ∀ r, kernel.Takes r ↔ r = build.launch.resources
  scheduler : kernel.family = .sm100Metadata → ∃ params, request = .pagedMetadata (some params) ∧
    0 < (params.contextLens.shape 0).val ∧
    build.launch.resources = .of 256 (2 * (params.contextLens.shape 0).val * 4) 1

/-- A request asks for one kernel at most. -/
theorem Writes.unique {request : Request} {kernel kernel' : KernelText} (h : Writes request kernel)
    (h' : Writes request kernel') (ha : kernel.Accepted) (ha' : kernel'.Accepted) : kernel = kernel' := by
  obtain ⟨hname, s, hs, hcode⟩ := h
  obtain ⟨hname', t, ht, hcode'⟩ := h'
  have hnames : kernel.name = kernel'.name := hname.symm.trans hname'
  obtain rfl := KernelText.code_eq_of_render hnames hs ht (hcode.symm.trans hcode')
  exact KernelText.eq_of_code ha ha' (KernelFamily.name_inj hnames) hs ht

section

variable {driver : Driver} {W : Type} {K : Set Request} {history next : History driver W}

/-- A call logs what it asked for. -/
theorem asked_step (hK : Separated K) (hkept : Kept K history) (hlog : ∀ call ∈ history.log, call.request ∈ K)
    {event : HistoryEvent driver W} (hallowed : Allowed K history event) (hs : history.step event = some next) :
    ∀ call ∈ next.log, call.request ∈ K := by
  rcases History.step_cases hs with ⟨-, -, hsame, -⟩ | ⟨pid, answers, name, code, worker, rfl, hworker, rfl⟩
  · rwa [hsame]
  · have hasks := fun request root => hallowed worker request root hworker
    rcases hr : tracedBuildKernel answers history.world name code
      (worker.found history.disk, ⟨history.cubins, worker.kernels⟩) with ⟨e | runtime, process, origins⟩
    · exact hlog
    · obtain ⟨-, -, request, _, _, hmem, -, -, -, hnext⟩ := hkept.logs hK hworker hasks hr
      rw [hnext]
      exact List.forall_mem_cons.mpr ⟨hmem, hlog⟩

/-- What a history logs was asked for. -/
theorem asked_of_run (hK : Separated K) {world : W} {trace : List (HistoryEvent driver W)}
    (h : Run History.step (Allowed K) (History.empty world : History driver W) trace history) :
    ∀ call ∈ history.log, call.request ∈ K := by
  have hboth : Kept K history ∧ ∀ call ∈ history.log, call.request ∈ K :=
    h.invariant (P := fun history => Kept K history ∧ ∀ call ∈ history.log, call.request ∈ K) ⟨Kept.empty, nofun⟩
      fun _ _ _ hinv hallowed hs => ⟨hinv.1.step hK hallowed hs, asked_step hK hinv.1 hinv.2 hallowed hs⟩
  exact hboth.2

/-- A launch that asks for an accepted kernel fits it. -/
theorem Writes.fitting {request : Request} {kernel : KernelText} (hwrites : Writes request kernel)
    (haccepted : kernel.Accepted) {runtime : Runtime} {asked : Raw.Request} {builds : List Raw.Build}
    (hbuilds : asked.builds runtime = .ok builds) {build : Raw.Build} (hbuild : build ∈ builds)
    (hasks : Writes request build.text) : Fitting kernel asked build := by
  have hkept := Raw.builds_kept hbuilds build hbuild
  obtain rfl := hasks.unique hwrites hkept.accepted haccepted
  refine ⟨rfl, fun hfamily r => ⟨fun htakes => htakes.unique hkept.takes hfamily, ?_⟩, ?_⟩
  · rintro rfl
    exact hkept.takes
  · exact Raw.builds_sm100Metadata hbuilds hbuild

/-- **Every kernel that a history hands out was compiled from the text of one kernel of the library**: that of
every launch, of any request in any settings, that asks for it, and the launch takes the resources which the text
was written for. Processes may share the cache directory, and stop at any point; what is asked for has keys and
hashes that differ. -/
theorem delivered_takes (hK : Separated K) (hours : ∀ request ∈ K, request.Ours) {world : W}
    {trace : List (HistoryEvent driver W)}
    (h : Run History.step (Allowed K) (History.empty world : History driver W) trace history) :
    ∀ call ∈ history.log, ∃ (kernel : KernelText) (c : Compilation W), call.compilation = some c ∧
      Writes c.toRequest kernel ∧
      ∀ runtime request builds, Raw.Request.builds runtime request = .ok builds → ∀ build ∈ builds,
        Writes call.request build.text → Fitting kernel request build := by
  intro call hcall
  obtain ⟨⟨c, _, hc, -, hrequest, -⟩, -⟩ := (kept_of_run hK h).log call hcall
  obtain ⟨kernel, haccepted, hwrites⟩ := hours _ (asked_of_run hK h call hcall)
  refine ⟨kernel, c, hc, hrequest ▸ hwrites, ?_⟩
  intro runtime request builds hbuilds build hbuild hasks
  exact hwrites.fitting haccepted hbuilds hbuild hasks

end

/-! ## One kernel -/

/-- The configuration on a machine on which everything succeeds. -/
theorem obliging_config : ∃ config : CompilerConfig, ∀ disk, compilerConfig obliging (obligingProcess disk) =
    (.ok config, { obligingProcess disk with compilerConfigCache := some config }) := by
  obtain ⟨flags, hflags⟩ := obliging_flags
  refine ⟨⟨nvccPath obligingRoots obliging.toHost, flags⟩, fun disk => ?_⟩
  exact compilerConfig_of_none rfl rfl hflags

/-- A process on that machine builds what it is asked for. -/
theorem obliging_serves {W : Type} (world : W) {config : CompilerConfig} (name code : String)
    (hconfigs : ∀ disk, compilerConfig obliging (obligingProcess disk) =
      (.ok config, { obligingProcess disk with compilerConfigCache := some config })) :
    ∃ (history : History twoDevices W) (call : Delivery W), call.request = Request.of name config code ∧
      call ∈ history.log ∧
      Run History.step (Allowed {Request.of name config code}) (History.empty world)
        (beginTrace 1 ++ [.build 1 obliging name code]) history := by
  let request : Request := Request.of name config code
  let started := (History.empty world).setWorker 1 (some (begun (Dirs.Store.empty KernelDir.empty) world))
  have hworker : started.workers 1 = some (begun (Dirs.Store.empty KernelDir.empty) world) :=
    setWorker_workers_self
  obtain ⟨key, hkey⟩ : ∃ key, cacheKey name config code = key := ⟨_, rfl⟩
  have hbuild := buildKernel_of_compile hkey rfl (hconfigs (Dirs.Store.empty KernelDir.empty))
    (show cacheRoot obliging.toHost = .ok ⟨"/root", [".deepgemm_rs"]⟩ from rfl) (fun _ _ => rfl) rfl rfl rfl
    (show newKernelRuntime obliging (some true) _ = .ok ⟨[()], true⟩ from rfl)
  obtain ⟨origins, -, hstep⟩ := History.step_build hworker hbuild
  have hallowed : Allowed {request} started (.build 1 obliging name code) := by
    rintro worker request' root hworker' ⟨config', t, hprepare, rfl⟩
    obtain rfl := Option.some_inj.mp (hworker.symm.trans hworker')
    cases (hconfigs started.disk).symm.trans (prepare_returns hprepare).2.1
    exact Set.mem_singleton _
  have hbegin : Run History.step (Allowed {request}) (History.empty world) (beginTrace 1) started := beginTrace_run rfl
  exact ⟨_, _, rfl, List.mem_cons_self, hbegin.append (Run.cons hallowed hstep Run.nil)⟩

/-- A process builds the kernel that broadcasts the scales. -/
theorem broadcast_delivered : ∃ (K : Set Request) (history : History twoDevices Unit) (call : Delivery Unit),
    (∀ request ∈ K, request.Ours) ∧ call ∈ history.log ∧ Writes call.request .broadcast ∧
      ∃ (kernel : KernelText) (c : Compilation Unit), call.compilation = some c ∧ Writes c.toRequest kernel ∧
        ∀ runtime request builds, Raw.Request.builds runtime request = .ok builds → ∀ build ∈ builds,
          Writes call.request build.text → Fitting kernel request build := by
  obtain ⟨config, hconfigs⟩ := obliging_config
  obtain ⟨code, hcode⟩ : ∃ code, KernelText.broadcast.code = .ok code := ⟨_, rfl⟩
  obtain ⟨history, call, hrequest, hcall, hrun⟩ :=
    obliging_serves () (KernelText.name .broadcast) (printer.render code) hconfigs
  have hwrites : Writes (Request.of (KernelText.name .broadcast) config (printer.render code)) .broadcast :=
    ⟨rfl, code, hcode, rfl⟩
  have hours : ∀ request ∈ ({Request.of (KernelText.name .broadcast) config (printer.render code)} : Set Request),
      request.Ours := by
    intro request hr
    obtain rfl := Set.mem_singleton_iff.mp hr
    exact ⟨.broadcast, trivial, hwrites⟩
  refine ⟨_, history, call, hours, hcall, hrequest ▸ hwrites, ?_⟩
  exact delivered_takes (separated_singleton _) hours hrun call hcall

end DeepGemmRs.Jit
