import DeepGemmRs.Lib.Announced
import DeepGemmRs.Raw.Builds

/-!
# The shared memory attribute under threads

`launch_kernel` sets the largest dynamic shared memory of a function and then launches it, without a lock; the
function is the same for all threads that ask for one text.

* `Build.function` : the function of a launch, by its name and text;
* `Build.job` : `cuFuncSetAttribute` and then `cuLaunchKernelEx`;
* `attributes_own_iff` : **every launch of every interleaving finds the attribute it set, exactly when threads
  that launch one SM100 scheduler launch it for batches of one size.**
-/

namespace DeepGemmRs.Raw

open Announced Checked MachineInt Runs Streamed

/-- The function of a launch: in one process and context `build_kernel` finds it by its name and text. -/
def Build.function (build : Build) : String × String :=
  (build.launch.kernel, match build.text.code with
    | .ok code => printer.render code
    | .error _ => "")

/-- The two calls of a launch with shared memory; one without makes the second call only, and asks nothing of the
attribute. -/
def Build.job (build : Build) : Option (Job (String × String) Int) :=
  build.launch.config.maxDynamicSharedSize.map fun size => ⟨build.function, size⟩

/-- The launches of a thread, one after the other. -/
abbrev Program : Type := List Build

/-- The launches of the threads come from requests that were accepted, in any settings. -/
def Accepted (threads : Nat → Program) : Prop :=
  ∀ t, ∀ build ∈ threads t, ∃ runtime request builds, Request.builds runtime request = .ok builds ∧ build ∈ builds

def jobs (threads : Nat → Program) (t : Nat) : List (Job (String × String) Int) := (threads t).filterMap Build.job

theorem job_eq_some {build : Build} {job : Job (String × String) Int} :
    build.job = some job ↔ build.launch.resources.maxDynamicSharedSize = some job.value ∧ build.function = job.key := by
  simp only [Build.job, Option.map_eq_some_iff]
  constructor
  · rintro ⟨size, hsize, rfl⟩
    exact ⟨hsize, rfl⟩
  · rintro ⟨hsize, hkey⟩
    exact ⟨job.value, hsize, by rw [hkey]⟩

theorem Build.Kept.text_eq_of_function {build build' : Build} (h : build.Kept) (h' : build'.Kept)
    (hfunction : build.function = build'.function) : build.text = build'.text ∧
      (build.text.family ≠ .sm100Metadata → build.launch.resources = build'.launch.resources) := by
  obtain ⟨s, hs⟩ := h.written
  obtain ⟨t, ht⟩ := h'.written
  simp only [Build.function, hs, ht, Prod.mk.injEq] at hfunction
  exact h.text_eq h' hfunction.1 hs ht hfunction.2

/-- A batch has sequences, so that its scheduler has shared memory. -/
theorem sm100Metadata_job {runtime : Runtime} {request : Request} {builds : List Build} {build : Build}
    (h : request.builds runtime = .ok builds) (hb : build ∈ builds) (hfamily : build.text.family = .sm100Metadata) :
    ∃ size, build.launch.resources = .of 256 size 1 ∧ build.job = some ⟨build.function, size⟩ := by
  obtain ⟨params, rfl, hbatch, hresources⟩ := builds_sm100Metadata h hb hfamily
  refine ⟨_, hresources, job_eq_some.mpr ⟨?_, rfl⟩⟩
  rw [hresources]
  exact if_pos (by omega)

/-- **Every launch of every interleaving finds the attribute it set, exactly when different threads launch the
scheduler of one text on SM100 for batches of one size.** -/
theorem attributes_own_iff {threads : Nat → Program} (haccepted : Accepted threads) {table : String × String → Option Int} :
    (∀ trace s, Run State.step (fun _ _ => True) (State.start table (jobs threads)) trace s → s.Own) ↔
      ∀ t t', t ≠ t' → ∀ build ∈ threads t, ∀ build' ∈ threads t', build.text = build'.text →
        build.text.family = .sm100Metadata → build.launch.resources = build'.launch.resources := by
  rw [own_iff]
  have hkept : ∀ t, ∀ build ∈ threads t, build.Kept := by
    intro t build hbuild
    obtain ⟨runtime, request, builds, hbuilds, hmem⟩ := haccepted t build hbuild
    exact builds_kept hbuilds build hmem
  constructor
  · intro hagree t t' hne build hbuild build' hbuild' htext hfamily
    obtain ⟨runtime, request, builds, hbuilds, hmem⟩ := haccepted t build hbuild
    obtain ⟨runtime', request', builds', hbuilds', hmem'⟩ := haccepted t' build' hbuild'
    obtain ⟨size, hresources, hjob⟩ := sm100Metadata_job hbuilds hmem hfamily
    obtain ⟨size', hresources', hjob'⟩ := sm100Metadata_job hbuilds' hmem' (htext ▸ hfamily)
    have hkernel : build.launch.kernel = build'.launch.kernel := by
      rw [(hkept t build hbuild).kernel, (hkept t' build' hbuild').kernel, htext]
    have hfunction : build.function = build'.function := by rw [Build.function, Build.function, hkernel, htext]
    have hsize : size = size' := hagree t t' hne ⟨build.function, size⟩ (List.mem_filterMap.mpr ⟨build, hbuild, hjob⟩)
      ⟨build'.function, size'⟩ (List.mem_filterMap.mpr ⟨build', hbuild', hjob'⟩) hfunction
    rw [hresources, hresources', hsize]
  · intro hsame t t' hne job hjob job' hjob' hkey
    obtain ⟨build, hbuild, hmade⟩ := List.mem_filterMap.mp hjob
    obtain ⟨build', hbuild', hmade'⟩ := List.mem_filterMap.mp hjob'
    obtain ⟨hsize, hfunction⟩ := job_eq_some.mp hmade
    obtain ⟨hsize', hfunction'⟩ := job_eq_some.mp hmade'
    obtain ⟨htext, hother⟩ := (hkept t build hbuild).text_eq_of_function (hkept t' build' hbuild')
      (hfunction.trans (hkey.trans hfunction'.symm))
    have hresources : build.launch.resources = build'.launch.resources := by
      by_cases hfamily : build.text.family = .sm100Metadata
      · exact hsame t t' hne build hbuild build' hbuild' htext hfamily
      · exact hother hfamily
    rw [hresources, hsize'] at hsize
    exact (Option.some_inj.mp hsize).symm

/-- Two threads on a B200, which schedule batches of these sizes. -/
def schedulers (first second : Build) : Nat → Program
  | 0 => [first]
  | 1 => [second]
  | _ => []

/-- **A launch may find the attribute of another thread**: the text of the scheduler does not tell its batch. -/
theorem schedulers_race : ∃ first second, Request.builds Gemm.b200 (.pagedMetadata (some (metadataOf 2))) = .ok [first] ∧
    Request.builds Gemm.b200 (.pagedMetadata (some (metadataOf 1))) = .ok [second] ∧
    ¬ ∀ trace s, Run State.step (fun _ _ => True) (State.start (fun _ => none) (jobs (schedulers first second))) trace s →
      s.Own := by
  obtain ⟨first, h, htext, hresources⟩ : ∃ build, Request.builds Gemm.b200 (.pagedMetadata (some (metadataOf 2))) = .ok [build] ∧
      build.text = .sm100Metadata 1 true false 256 132 ∧ build.launch.resources = .of 256 16 1 := ⟨_, rfl, rfl, rfl⟩
  obtain ⟨second, h', htext', hresources'⟩ : ∃ build,
      Request.builds Gemm.b200 (.pagedMetadata (some (metadataOf 1))) = .ok [build] ∧
      build.text = .sm100Metadata 1 true false 256 132 ∧ build.launch.resources = .of 256 8 1 := ⟨_, rfl, rfl, rfl⟩
  have haccepted : Accepted (schedulers first second) := by
    intro t build hbuild
    match t with
    | 0 =>
      obtain rfl := List.mem_singleton.mp hbuild
      exact ⟨_, _, _, h, hbuild⟩
    | 1 =>
      obtain rfl := List.mem_singleton.mp hbuild
      exact ⟨_, _, _, h', hbuild⟩
    | t + 2 => cases hbuild
  refine ⟨first, second, h, h', fun hown => ?_⟩
  have hsame := (attributes_own_iff haccepted).mp hown 0 1 (by decide) first (List.mem_singleton.mpr rfl) second
    (List.mem_singleton.mpr rfl) (htext.trans htext'.symm) (by rw [htext]; rfl)
  rw [hresources, hresources'] at hsame
  exact absurd hsame (by decide)

end DeepGemmRs.Raw
