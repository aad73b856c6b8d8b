import DeepGemmRs.Jit.Build
import DeepGemmRs.Lib.Ghost
import Mathlib.Data.Set.Function

/-!
# Where a kernel comes from

`build_kernel` beside a note of what each `kernel.cubin` and each kernel was compiled from.

* `Request`, `Compilation`, `Origins` : what a kernel is asked for by, a run of `nvcc`, and the notes;
* `tracedBuildKernel` : `buildKernel`, noting; `tracedBuildKernel_erases` : without the notes it is `buildKernel`;
* `Separated` : the cache keys of some requests do not collide; `separated_of_plain` : without `$` before the code,
  it is for the hash only;
* `DiskHolds`, `Stocked` : what was compiled into the directories has a property; `tracedBuildKernel_holds` : a call
  keeps it, when what it compiles has it;
* `Honest` : what is cached for a request was compiled for it;
* `Came` : how the kernel that a call returns came about;
* `tracedBuildKernel_returns`, `tracedBuildKernel_stops` : a call keeps the caches honest, and returns a kernel
  that was compiled for its request.
-/

namespace DeepGemmRs.Jit

open Checked Dirs Dirs.Store Stateful Stateful.Prog

/-- What `build_kernel` makes its cache key of. -/
structure Request where
  name : String
  nvcc : String
  flags : String
  code : String

def Request.of (name : String) (config : CompilerConfig) (code : String) : Request :=
  ⟨name, config.nvcc.string, config.flags, code⟩

/-- `cache_key`. -/
def Request.key (request : Request) : String :=
  request.name ++ "$$" ++ request.nvcc ++ "$$" ++ request.flags ++ "$$" ++ request.code

/-- `dir_path`. -/
def Request.dir (request : Request) (root : Path) : Path := dirPath root request.name (cacheHash request.key)

/-- `tmp_dir`. -/
def Request.tmp (request : Request) (root : Path) (pid : Nat) : Path :=
  tmpDir root request.name pid (cacheHash request.key)

/-- A run of `nvcc`; `world` is what it reads besides its command line and the code. -/
structure Compilation (W : Type) extends Request where
  world : W

/-- The notes. -/
structure Origins (W : Type) where
  /-- For each directory, what its `kernel.cubin` was compiled from. -/
  cubins : Nat → Option (Compilation W)
  /-- For each key of `g_kernel_cache`. -/
  kernels : String → Option (Compilation W)

section

variable {driver : Driver} {W : Type}

/-- `nvcc` wrote into the directory. -/
def Origins.compiled (origins : Origins W) (d : Option Nat) (compilation : Compilation W) : Origins W :=
  match d with
  | some d => { origins with cubins := Function.update origins.cubins d (some compilation) }
  | none => origins

/-- A library was loaded from the directory. -/
def Origins.loaded (origins : Origins W) (key : String) (d : Option Nat) : Origins W :=
  { origins with kernels := Function.update origins.kernels key (d.bind origins.cubins) }

/-- A part of a call of `build_kernel`, with the notes. -/
abbrev Traced (driver : Driver) (W : Type) : Type → Type := Prog Stop (Process driver × Origins W)

def tracedStoreRuntime (answers : Answers driver) (cacheKey : String) (dirPath : Path) :
    Traced driver W (KernelRuntime driver) := do
  let runtime ← beside (storeRuntime answers cacheKey dirPath)
  note fun process origins => origins.loaded cacheKey (process.disk.node dirPath)
  pure runtime

def tracedLoadCachedKernel (answers : Answers driver) (cacheKey : String) (dirPath : Path) :
    Traced driver W (Option (KernelRuntime driver)) := do
  let process ← beside get
  match process.kernelCache cacheKey with
  | some runtime => pure (some runtime)
  | none => do
    beside (diskCall answers .lookUp id)
    if hasCubin process.disk dirPath then do
      let runtime ← tracedStoreRuntime answers cacheKey dirPath
      pure (some runtime)
    else pure none

/-- `nvcc` reads `world`. -/
def tracedCompileKernel (answers : Answers driver) (world : W) (root : Path) (config : CompilerConfig)
    (request : Request) : Traced driver W Unit := do
  let hash := cacheHash request.key
  beside (runNvcc answers root request.name config hash)
  note fun process origins => origins.compiled (process.disk.node (request.tmp root answers.getpid)) ⟨request, world⟩
  beside (publish answers root request.name hash)

def tracedResume (answers : Answers driver) (world : W) (root : Path) (config : CompilerConfig) (request : Request) :
    Traced driver W (KernelRuntime driver) := do
  match ← tracedLoadCachedKernel answers request.key (request.dir root) with
  | some runtime => pure runtime
  | none => do
    tracedCompileKernel answers world root config request
    tracedStoreRuntime answers request.key (request.dir root)

def tracedBuildKernel (answers : Answers driver) (world : W) (name code : String) :
    Traced driver W (KernelRuntime driver) := do
  let (config, root) ← beside (prepare answers)
  tracedResume answers world root config (Request.of name config code)

variable {answers : Answers driver} {world : W} {name code : String} {root : Path} {config : CompilerConfig}
  {request : Request}

theorem tracedStoreRuntime_erases {key : String} {dir : Path} :
    Erases (tracedStoreRuntime answers key dir : Traced driver W _) (storeRuntime answers key dir) := by
  have h := (Erases.beside (storeRuntime answers key dir)).bind fun runtime =>
    Erases.note_bind (γ := Origins W) (k := fun process origins => origins.loaded key (process.disk.node dir))
      (Erases.pure runtime)
  rw [bind_pure] at h
  exact h

theorem tracedLoadCachedKernel_erases {key : String} {dir : Path} :
    Erases (tracedLoadCachedKernel answers key dir : Traced driver W _) (loadCachedKernel answers key dir) := by
  refine (Erases.beside get).bind fun process => ?_
  cases process.kernelCache key with
  | some runtime => exact Erases.pure _
  | none =>
    refine (Erases.beside _).bind fun _ => ?_
    split
    · exact tracedStoreRuntime_erases.bind fun _ => Erases.pure _
    · exact Erases.pure _

theorem tracedCompileKernel_erases : Erases (tracedCompileKernel answers world root config request)
    (compileKernel answers root request.name config (cacheHash request.key)) := by
  rw [compileKernel_eq]
  exact (Erases.beside _).bind fun _ => Erases.note_bind (Erases.beside _)

/-- **The notes change nothing.** -/
theorem tracedBuildKernel_erases :
    Erases (tracedBuildKernel answers world name code) (buildKernel answers name code) := by
  rw [buildKernel_eq]
  refine (Erases.beside _).bind fun found => ?_
  refine tracedLoadCachedKernel_erases.bind fun cached => ?_
  cases cached with
  | some runtime => exact Erases.pure _
  | none => exact tracedCompileKernel_erases.bind fun _ => tracedStoreRuntime_erases

/-- A call as `buildKernel` sees it. -/
theorem tracedBuildKernel_process {s t : Process driver × Origins W} {result : Except Stop (KernelRuntime driver)}
    (h : tracedBuildKernel answers world name code s = (result, t)) :
    buildKernel answers name code s.1 = (result, t.1) := by
  have herases : Erases (tracedBuildKernel answers world name code) (buildKernel answers name code) :=
    tracedBuildKernel_erases
  obtain ⟨hresult, hprocess⟩ := herases s.1 s.2
  rw [Prod.mk.eta, h] at hresult hprocess
  exact Prod.ext hresult.symm hprocess.symm

/-- A call leaves the strings of `runtime_init`. -/
theorem tracedBuildKernel_roots {s t : Process driver × Origins W} {result : Except Stop (KernelRuntime driver)}
    (h : tracedBuildKernel answers world name code s = (result, t)) : t.1.roots = s.1.roots := by
  have hsettings := (buildKernel_settings answers name code s.1).1
  rwa [tracedBuildKernel_process h] at hsettings

/-! ## Honest caches -/

/-- No two of the requests share a cache key, and no two of the keys a hash. -/
structure Separated (K : Set Request) : Prop where
  keys : Set.InjOn Request.key K
  hashes : Set.InjOn fnv1a64 (Request.key '' K)

/-- A `$` comes with the code at the earliest. -/
structure Request.Plain (request : Request) : Prop where
  name : '$' ∉ request.name.toList
  nvcc : '$' ∉ request.nvcc.toList
  flags : '$' ∉ request.flags.toList

/-- The first `$` is where the two begin to be read alike. -/
theorem split_inj {before before' after after' : List Char} (h : '$' ∉ before) (h' : '$' ∉ before')
    (hsame : before ++ '$' :: after = before' ++ '$' :: after') : before = before' ∧ after = after' := by
  induction before generalizing before' with
  | nil =>
    cases before' with
    | nil => exact ⟨rfl, (List.cons.inj hsame).2⟩
    | cons c rest' =>
      rw [← (List.cons.inj hsame).1] at h'
      exact absurd List.mem_cons_self h'
  | cons c rest ih =>
    cases before' with
    | nil =>
      rw [(List.cons.inj hsame).1] at h
      exact absurd List.mem_cons_self h
    | cons c' rest' =>
      obtain ⟨rfl, hrest⟩ := List.cons.inj hsame
      obtain ⟨rfl, hafter⟩ := ih (List.not_mem_of_not_mem_cons h) (List.not_mem_of_not_mem_cons h') hrest
      exact ⟨rfl, hafter⟩

theorem field_inj {field field' rest rest' : String} (hfield : '$' ∉ field.toList) (hfield' : '$' ∉ field'.toList)
    (h : field ++ ("$$" ++ rest) = field' ++ ("$$" ++ rest')) : field = field' ∧ rest = rest' := by
  have hchars := congrArg String.toList h
  simp only [String.toList_append] at hchars
  obtain ⟨hbefore, hafter⟩ := split_inj hfield hfield' hchars
  exact ⟨String.toList_inj.mp hbefore, String.toList_inj.mp (List.cons.inj hafter).2⟩

/-- The key tells the request. -/
theorem Request.Plain.key_inj {request request' : Request} (h : request.Plain) (h' : request'.Plain)
    (hkey : request.key = request'.key) : request = request' := by
  unfold Request.key at hkey
  simp only [String.append_assoc] at hkey
  obtain ⟨hname, hkey⟩ := field_inj h.name h'.name hkey
  obtain ⟨hnvcc, hkey⟩ := field_inj h.nvcc h'.nvcc hkey
  obtain ⟨hflags, hcode⟩ := field_inj h.flags h'.flags hkey
  cases request
  cases request'
  rw [Request.mk.injEq]
  exact ⟨hname, hnvcc, hflags, hcode⟩

/-- Then it is for the hash not to collide. -/
theorem separated_of_plain {K : Set Request} (hplain : ∀ request ∈ K, request.Plain)
    (hhashes : Set.InjOn fnv1a64 (Request.key '' K)) : Separated K where
  keys := by
    intro request hr request' hr' hkey
    exact (hplain request hr).key_inj (hplain request' hr') hkey
  hashes := hhashes

/-- What was compiled into the directory of a request has `P`. -/
def DiskHolds (K : Set Request) (P : Request → Compilation W → Prop) (disk : Disk)
    (cubins : Nat → Option (Compilation W)) : Prop :=
  ∀ request ∈ K, ∀ root d, disk.node (request.dir root) = some d → (disk.content d).cubin ≠ none →
    ∃ c, cubins d = some c ∧ P request c

/-- So it is for a process and its notes. -/
def Stocked (K : Set Request) (P : Request → Compilation W → Prop) (s : Process driver × Origins W) : Prop :=
  DiskHolds K P s.1.disk s.2.cubins

/-- What is in the directory of a request was compiled for it. -/
def HonestDisk (K : Set Request) (disk : Disk) (cubins : Nat → Option (Compilation W)) : Prop :=
  DiskHolds K (fun request c => c.toRequest = request) disk cubins

/-- What is under a key was compiled for a request with that key. -/
def HonestKernels (K : Set Request) (kernelCache : String → Option (KernelRuntime driver))
    (kernels : String → Option (Compilation W)) : Prop :=
  ∀ key runtime, kernelCache key = some runtime → ∃ c, kernels key = some c ∧ c.toRequest ∈ K ∧ c.key = key

structure Honest (K : Set Request) (s : Process driver × Origins W) : Prop where
  disk : HonestDisk K s.1.disk s.2.cubins
  kernels : HonestKernels K s.1.kernelCache s.2.kernels

variable {K : Set Request} {P : Request → Compilation W → Prop} {s t : Process driver × Origins W}
  {runtime : KernelRuntime driver}

theorem Separated.dir_inj (h : Separated K) {request request' : Request} {root root' : Path} (hr : request ∈ K)
    (hr' : request' ∈ K) (hdir : request.dir root = request'.dir root') : request = request' := by
  obtain ⟨-, hhash⟩ := dirPath_inj hdir
  apply h.keys hr hr'
  exact h.hashes (Set.mem_image_of_mem _ hr) (Set.mem_image_of_mem _ hr') hhash

theorem separated_singleton (request : Request) : Separated {request} := by
  constructor
  · exact Set.injOn_singleton ..
  · rw [Set.image_singleton]
    exact Set.injOn_singleton ..

theorem diskHolds_empty {c : KernelDir} {cubins : Nat → Option (Compilation W)} :
    DiskHolds K P (Store.empty c) cubins := by
  intro request _ root d hd
  cases hd

theorem honestDisk_empty {c : KernelDir} {cubins : Nat → Option (Compilation W)} :
    HonestDisk K (Store.empty c) cubins := diskHolds_empty

/-- The directories of the requests are as they were. -/
theorem DiskHolds.of_frame {disk disk' : Disk} {cubins cubins' : Nat → Option (Compilation W)}
    (h : DiskHolds K P disk cubins)
    (hframe : ∀ request ∈ K, ∀ root d, disk'.node (request.dir root) = some d →
      disk.node (request.dir root) = some d ∧ disk'.content d = disk.content d ∧ cubins' d = cubins d) :
    DiskHolds K P disk' cubins' := by
  intro request hr root d hd hcubin
  obtain ⟨hnode, hcontent, hnote⟩ := hframe request hr root d hd
  rw [hcontent] at hcubin
  rw [hnote]
  exact h request hr root d hnode hcubin

theorem Request.dir_ne_tmpDir {root' : Path} {pid : Nat} {hash : String} :
    request.dir root ≠ tmpDir root' name pid hash := by
  unfold Request.dir
  exact tmpDir_ne_dirPath.symm

/-- Work in a temporary directory. -/
theorem DiskHolds.ignores {cubins : Nat → Option (Compilation W)} {pid : Nat} {hash : String} :
    Ignores (fun process : Process driver => DiskHolds K P process.disk cubins) (tmpDir root name pid hash) where
  remove s h := by
    refine h.of_frame ?_
    intro request _ root d hd
    exact ⟨by rwa [node_remove_of_ne Request.dir_ne_tmpDir] at hd, rfl, rfl⟩
  create s h := by
    refine h.of_frame ?_
    intro request _ root d hd
    rw [node_create_of_ne Request.dir_ne_tmpDir] at hd
    exact ⟨hd, content_create_of_lt (s.disk.lt_next _ d hd), rfl⟩
  modify s d f h hd := by
    refine h.of_frame ?_
    intro request _ root e he
    refine ⟨he, content_modify_of_ne ?_, rfl⟩
    rintro rfl
    exact Request.dir_ne_tmpDir (s.disk.inj _ _ _ he hd)

/-! ## A load -/

/-- The directory of the request is there, with what `c` compiled in it. -/
def Holds (s : Process driver × Origins W) (root : Path) (request : Request) (c : Compilation W) : Prop :=
  ∃ d, s.1.disk.node (request.dir root) = some d ∧ s.2.cubins d = some c

theorem tracedStoreRuntime_returns {key : String} {dir : Path}
    (h : Returns (tracedStoreRuntime answers key dir) s runtime t) :
    t.1 = { s.1 with kernelCache := Function.update s.1.kernelCache key (some runtime) } ∧
      t.2 = s.2.loaded key (s.1.disk.node dir) := by
  obtain ⟨made, u, hstore, h⟩ := returns_bind.mp h
  obtain ⟨hstore, hnotes⟩ := returns_beside.mp hstore
  obtain ⟨-, hu⟩ := storeRuntime_returns hstore
  obtain ⟨_, v, hnote, h⟩ := returns_bind.mp h
  obtain ⟨rfl, rfl⟩ := returns_pure.mp h
  obtain rfl := returns_note.mp hnote
  rw [hu, hnotes]
  exact ⟨rfl, rfl⟩

theorem tracedStoreRuntime_stops {key : String} {dir : Path} {e : Stop}
    (h : tracedStoreRuntime answers key dir s = (.error e, t)) : t = s := by
  rcases stops_bind h with hstore | ⟨made, u, -, h⟩
  · obtain ⟨hstore, hnotes⟩ := stops_beside.mp hstore
    exact Prod.ext (storeRuntime_stops hstore) hnotes
  · cases h

/-- What a load notes. -/
theorem Holds.kernels {c : Compilation W} (hfound : Holds s root request c)
    (h : Returns (tracedStoreRuntime answers request.key (request.dir root)) s runtime t) :
    t.2.kernels = Function.update s.2.kernels request.key (some c) := by
  obtain ⟨d, hd, hc⟩ := hfound
  obtain ⟨-, hnotes⟩ := tracedStoreRuntime_returns h
  rw [hnotes, Origins.loaded, hd, Option.bind_some, hc]

/-- A load changes nothing in the directories. -/
theorem Holds.store {c : Compilation W} (hfound : Holds s root request c) {key : String} {dir : Path}
    (h : Returns (tracedStoreRuntime answers key dir) s runtime t) : Holds t root request c := by
  obtain ⟨hprocess, hnotes⟩ := tracedStoreRuntime_returns h
  unfold Holds
  rw [hprocess, hnotes]
  exact hfound

theorem Honest.store (hs : Honest K s) (hr : request ∈ K) {c : Compilation W} (hc : c.toRequest = request)
    (hfound : Holds s root request c)
    (h : Returns (tracedStoreRuntime answers request.key (request.dir root)) s runtime t) : Honest K t := by
  have hkernels := hfound.kernels h
  obtain ⟨hprocess, hnotes⟩ := tracedStoreRuntime_returns h
  constructor
  · rw [hprocess, hnotes]
    exact hs.disk
  · rw [hprocess, hkernels]
    intro key made hmade
    by_cases hkey : key = request.key
    · rw [hkey, Function.update_self]
      exact ⟨c, rfl, hc ▸ hr, congrArg Request.key hc⟩
    · rw [Function.update_of_ne hkey]
      exact hs.kernels key made ((Function.update_of_ne hkey ..).symm.trans hmade)

/-! ## A compilation -/

/-- What `publish` keeps: the directory to be moved has what `c` compiled. -/
def Ready (K : Set Request) (P : Request → Compilation W → Prop) (tmp : Path) (c : Compilation W)
    (disk : Disk) (cubins : Nat → Option (Compilation W)) : Prop :=
  DiskHolds K P disk cubins ∧ ∀ d, disk.node tmp = some d → cubins d = some c

theorem Ready.publish (hK : Separated K) (hr : request ∈ K) (hP : P request ⟨request, world⟩)
    {cubins : Nat → Option (Compilation W)} :
    Keeps (fun process => Ready K P (request.tmp root answers.getpid) ⟨request, world⟩ process.disk cubins)
      (publish answers root request.name (cacheHash request.key)) := by
  apply publish_keeps
  · intro s h
    refine ⟨DiskHolds.ignores.remove s h.1, ?_⟩
    intro d hd
    cases node_remove_self.symm.trans hd
  · intro s h _
    refine ⟨?_, ?_⟩
    · intro request' hr' root' d hd hcubin
      by_cases hdir : request'.dir root' = request.dir root
      · rw [hdir] at hd
        obtain rfl := hK.dir_inj hr' hr hdir
        exact ⟨_, h.2 d (node_rename_target.symm.trans hd), hP⟩
      · have hbefore := (node_rename_of_ne Request.dir_ne_tmpDir hdir).symm.trans hd
        exact h.1 request' hr' root' d hbefore hcubin
    · intro d hd
      cases (node_rename_source Request.dir_ne_tmpDir.symm).symm.trans hd

/-- `nvcc` is done, and noted. -/
theorem DiskHolds.ready {disk : Disk} {origins : Origins W} {pid : Nat} {c : Compilation W}
    (h : DiskHolds K P disk origins.cubins) : Ready K P (request.tmp root pid) c disk
      (origins.compiled (disk.node (request.tmp root pid)) c).cubins := by
  cases hd : disk.node (request.tmp root pid) with
  | none =>
    refine ⟨h, ?_⟩
    intro d hd'
    cases hd.symm.trans hd'
  | some d =>
    refine ⟨h.of_frame ?_, ?_⟩
    · intro request' _ root' e he
      refine ⟨he, rfl, Function.update_of_ne ?_ ..⟩
      rintro rfl
      exact Request.dir_ne_tmpDir (disk.inj _ _ _ he hd)
    · intro e he
      obtain rfl := Option.some_inj.mp (hd.symm.trans he)
      exact Function.update_self ..

theorem tracedCompileKernel_holds (hK : Separated K) (hr : request ∈ K) (hP : P request ⟨request, world⟩) :
    Keeps (Stocked K P)
      (tracedCompileKernel answers world root config request : Traced driver W Unit) := by
  intro s hs
  have hignores : ∀ origins : Origins W, Ignores (fun process : Process driver =>
      DiskHolds K P process.disk origins.cubins) (request.tmp root answers.getpid) := fun _ => DiskHolds.ignores
  have hnvcc : Keeps (Stocked K P)
      (beside (runNvcc answers root request.name config (cacheHash request.key)) : Traced driver W Unit) :=
    Keeps.beside fun origins => runNvcc_keeps (hignores origins)
  apply ends_bind
  · intro e t h
    exact hnvcc.of_stops h hs
  · rintro v ⟨process, origins⟩ h
    rw [bind_of_returns (returns_note.mpr rfl)]
    exact (Ready.publish hK hr hP _ (hnvcc.of_returns h hs).ready).1

theorem tracedCompileKernel_kernels {kernels : String → Option (Compilation W)} :
    Keeps (fun s => s.2.kernels = kernels) (tracedCompileKernel answers world root config request : Traced driver W Unit) := by
  refine Keeps.bind (fun _ hs => hs) fun _ => ?_
  refine Keeps.bind ?_ fun _ => fun _ hs => hs
  intro s hs
  show (s.2.compiled _ _).kernels = kernels
  unfold Origins.compiled
  split
  · exact hs
  · exact hs

theorem tracedCompileKernel_honest (hK : Separated K) (hr : request ∈ K) :
    Keeps (Honest K) (tracedCompileKernel answers world root config request : Traced driver W Unit) := by
  intro s hs
  have herases : Erases (tracedCompileKernel answers world root config request) _ := tracedCompileKernel_erases
  have hsame : SameCaches s.1 (compileKernel answers root request.name config (cacheHash request.key) s.1).2 :=
    compileKernel_keeps root request.name config (cacheHash request.key) s.1 ⟨rfl, rfl, rfl⟩
  rw [← (herases s.1 s.2).2] at hsame
  have hkernels : (tracedCompileKernel answers world root config request s).2.2.kernels = s.2.kernels :=
    tracedCompileKernel_kernels s rfl
  refine ⟨tracedCompileKernel_holds hK hr rfl s hs.disk, ?_⟩
  rw [hsame.kernels, hkernels]
  exact hs.kernels

/-- The directory of the request was not there, so it is the one just compiled in. -/
theorem tracedCompileKernel_returns {v : Unit} (hmiss : hasCubin s.1.disk (request.dir root) = false)
    (h : Returns (tracedCompileKernel answers world root config request) s v t) :
    Holds t root request ⟨request, world⟩ := by
  obtain ⟨_, ⟨process, origins⟩, hnvcc, h⟩ := returns_bind.mp h
  obtain ⟨hnvcc, -⟩ := returns_beside.mp hnvcc
  have hdisk : process.disk = compiledDisk (request.tmp root answers.getpid) s.1.disk :=
    congrArg Process.disk (runNvcc_returns hnvcc).2
  have hnode : process.disk.node (request.tmp root answers.getpid) = some s.1.disk.next := by
    rw [hdisk]
    exact node_compiledDisk_self
  obtain ⟨_, w, hnote, h⟩ := returns_bind.mp h
  obtain rfl := returns_note.mp hnote
  obtain ⟨hpublish, hnotes⟩ := returns_beside.mp h
  rcases (publish_returns hpublish).2 with hmoved | ⟨-, hgone, hcubin⟩
  · refine ⟨s.1.disk.next, ?_, ?_⟩
    · rw [(renameDir_eq_some (renameOrNot_eq_some hmoved).2).2]
      exact node_rename_target.trans hnode
    · rw [hnotes, hnode]
      exact Function.update_self ..
  · have hnone : t.1.disk.Intact (request.dir root) fun dir => dir.cubin = none := by
      rw [hgone, hdisk]
      exact (intact_compiledDisk Request.dir_ne_tmpDir (hasCubin_eq_false.mp hmiss)).remove
    cases hcubin.symm.trans (hasCubin_eq_false.mpr hnone)

/-! ## A call -/

theorem tracedLoadCachedKernel_returns {key : String} {dir : Path} {found : Option (KernelRuntime driver)}
    (h : Returns (tracedLoadCachedKernel answers key dir) s found t) :
    (found = s.1.kernelCache key ∧ t = s ∧ (found = none → hasCubin s.1.disk dir = false)) ∨
      ∃ runtime, found = some runtime ∧ s.1.kernelCache key = none ∧ hasCubin s.1.disk dir ∧
        Returns (tracedStoreRuntime answers key dir) s runtime t := by
  obtain ⟨process, u, hget, h⟩ := returns_bind.mp h
  obtain ⟨hget, hu⟩ := returns_beside.mp hget
  obtain ⟨rfl, hs⟩ := returns_get.mp hget
  obtain rfl : s = u := Prod.ext hs hu.symm
  cases hc : s.1.kernelCache key with
  | some cached =>
    rw [hc] at h
    obtain ⟨rfl, rfl⟩ := returns_pure.mp h
    exact .inl ⟨rfl, rfl, nofun⟩
  | none =>
    rw [hc] at h
    obtain ⟨_, v, hlook, h⟩ := returns_bind.mp h
    obtain ⟨hlook, hnotes⟩ := returns_beside.mp hlook
    obtain rfl : v = s := Prod.ext (diskCall_returns hlook).2 hnotes
    by_cases hd : hasCubin v.1.disk dir
    · simp only [hd, if_true] at h
      obtain ⟨runtime, _, hstore, h⟩ := returns_bind.mp h
      obtain ⟨rfl, rfl⟩ := returns_pure.mp h
      exact .inr ⟨runtime, rfl, rfl, hd, hstore⟩
    · simp only [hd, if_false, Bool.false_eq_true] at h
      obtain ⟨rfl, rfl⟩ := returns_pure.mp h
      exact .inl ⟨rfl, rfl, fun _ => Bool.eq_false_iff.mpr hd⟩

theorem tracedLoadCachedKernel_stops {key : String} {dir : Path} {e : Stop}
    (h : tracedLoadCachedKernel answers key dir s = (.error e, t)) : t = s := by
  rcases stops_bind h with hget | ⟨process, u, hget, h⟩
  · cases hget
  obtain ⟨hget, hu⟩ := returns_beside.mp hget
  obtain ⟨rfl, hs⟩ := returns_get.mp hget
  obtain rfl : s = u := Prod.ext hs hu.symm
  cases hc : s.1.kernelCache key with
  | some cached =>
    rw [hc] at h
    cases h
  | none =>
    rw [hc] at h
    rcases stops_bind h with hlook | ⟨_, v, hlook, h⟩
    · obtain ⟨hlook, hnotes⟩ := stops_beside.mp hlook
      exact Prod.ext (diskCall_stops hlook) hnotes
    obtain ⟨hlook, hnotes⟩ := returns_beside.mp hlook
    obtain rfl : v = s := Prod.ext (diskCall_returns hlook).2 hnotes
    by_cases hd : hasCubin v.1.disk dir
    · simp only [hd, if_true] at h
      rcases stops_bind h with hstore | ⟨runtime, _, -, h⟩
      · exact tracedStoreRuntime_stops hstore
      · cases h
    · simp only [hd, if_false, Bool.false_eq_true] at h
      cases h

/-- How a kernel came about that was compiled as `c` says: it was in the process, it was in the directory,
or it was compiled now. -/
inductive Came (world : W) (root : Path) (request : Request) (s t : Process driver × Origins W) :
    Compilation W → Prop
  | cached {c : Compilation W} (hhit : s.1.kernelCache request.key ≠ none) (h : s.2.kernels request.key = some c)
      (hsame : t.2.kernels = s.2.kernels) : Came world root request s t c
  | loaded {c : Compilation W} (hmiss : s.1.kernelCache request.key = none)
      (hcubin : hasCubin s.1.disk (request.dir root) = true) (h : Holds s root request c)
      (hnew : t.2.kernels = Function.update s.2.kernels request.key (some c)) : Came world root request s t c
  | compiled (hmiss : s.1.kernelCache request.key = none)
      (hcubin : hasCubin s.1.disk (request.dir root) = false) (hend : Holds t root request ⟨request, world⟩)
      (hnew : t.2.kernels = Function.update s.2.kernels request.key (some ⟨request, world⟩)) :
      Came world root request s t ⟨request, world⟩

theorem Came.kernels {c : Compilation W} (h : Came world root request s t c) :
    t.2.kernels request.key = some c := by
  cases h with
  | cached _ h hsame => rwa [hsame]
  | loaded _ _ _ hnew | compiled _ _ _ hnew =>
    rw [hnew]
    exact Function.update_self ..

/-- No other kernel is noted. -/
theorem Came.kernels_cases {c c' : Compilation W} (h : Came world root request s t c) {key : String}
    (hc : t.2.kernels key = some c') : c' = c ∨ s.2.kernels key = some c' := by
  cases h with
  | cached _ _ hsame =>
    rw [hsame] at hc
    exact .inr hc
  | loaded _ _ _ hnew | compiled _ _ _ hnew =>
    rw [hnew] at hc
    by_cases hkey : key = request.key
    · rw [hkey, Function.update_self] at hc
      exact .inl (Option.some_inj.mp hc).symm
    · rw [Function.update_of_ne hkey] at hc
      exact .inr hc

/-- **A kernel is for its request**, wherever it comes from. -/
theorem tracedResume_returns (hK : Separated K) (hr : request ∈ K) (hs : Honest K s)
    (h : Returns (tracedResume answers world root config request) s runtime t) :
    Honest K t ∧ ∃ c, Came world root request s t c ∧ c.toRequest = request := by
  obtain ⟨found, u, hload, h⟩ := returns_bind.mp h
  rcases tracedLoadCachedKernel_returns hload with ⟨hfound, rfl, hmiss⟩ | ⟨made, rfl, habsent, hcubin, hstore⟩
  · cases found with
    | some cached =>
      obtain ⟨rfl, rfl⟩ := returns_pure.mp h
      obtain ⟨c, hc, hmem, hkey⟩ := hs.kernels _ _ hfound.symm
      have hhit : u.1.kernelCache request.key ≠ none := by
        rw [← hfound]
        exact Option.some_ne_none _
      exact ⟨hs, c, .cached hhit hc rfl, hK.keys hmem hr hkey⟩
    | none =>
      obtain ⟨_, v, hcompile, h⟩ := returns_bind.mp h
      have hhonest := (tracedCompileKernel_honest hK hr).of_returns hcompile hs
      have hholds := tracedCompileKernel_returns (hmiss rfl) hcompile
      refine ⟨hhonest.store hr rfl hholds h, _, .compiled hfound.symm (hmiss rfl) (hholds.store h) ?_, rfl⟩
      rw [hholds.kernels h, tracedCompileKernel_kernels.of_returns hcompile rfl]
  · obtain ⟨rfl, rfl⟩ := returns_pure.mp h
    obtain ⟨d, hd, hcontent⟩ := hasCubin_iff.mp hcubin
    obtain ⟨c, hc, hrequest⟩ := hs.disk request hr root d hd hcontent
    have hholds : Holds s root request c := ⟨d, hd, hc⟩
    exact ⟨hs.store hr hrequest hholds hstore, c, .loaded habsent hcubin hholds (hholds.kernels hstore), hrequest⟩

theorem tracedResume_stops (hK : Separated K) (hr : request ∈ K) (hs : Honest K s) {e : Stop}
    (h : tracedResume answers world root config request s = (.error e, t)) :
    Honest K t ∧ t.2.kernels = s.2.kernels := by
  rcases stops_bind h with hload | ⟨found, u, hload, hrest⟩
  · obtain rfl := tracedLoadCachedKernel_stops hload
    exact ⟨hs, rfl⟩
  cases found with
  | some cached => cases hrest
  | none =>
    rcases tracedLoadCachedKernel_returns hload with ⟨-, rfl, -⟩ | ⟨_, hfound, -⟩
    · rcases stops_bind hrest with hcompile | ⟨_, v, hcompile, hstore⟩
      · exact ⟨(tracedCompileKernel_honest hK hr).of_stops hcompile hs,
          tracedCompileKernel_kernels.of_stops hcompile rfl⟩
      · obtain rfl := tracedStoreRuntime_stops hstore
        exact ⟨(tracedCompileKernel_honest hK hr).of_returns hcompile hs,
          tracedCompileKernel_kernels.of_returns hcompile rfl⟩
    · cases hfound

/-- A load leaves the directories. -/
theorem tracedStoreRuntime_holds {key : String} {dir : Path} :
    Keeps (Stocked K P) (tracedStoreRuntime answers key dir : Traced driver W _) := by
  intro s hs
  rcases hr : tracedStoreRuntime answers key dir s with ⟨e | runtime, t⟩
  · rw [tracedStoreRuntime_stops hr]
    exact hs
  · obtain ⟨hprocess, hnotes⟩ := tracedStoreRuntime_returns hr
    unfold Stocked
    rw [hprocess, hnotes]
    exact hs

theorem tracedResume_holds (hK : Separated K) (hr : request ∈ K) (hP : P request ⟨request, world⟩) :
    Keeps (Stocked K P)
      (tracedResume answers world root config request : Traced driver W _) := by
  intro s hs
  apply ends_bind
  · intro e t h
    rw [tracedLoadCachedKernel_stops h]
    exact hs
  intro found t h
  have ht : Stocked K P t := by
    rcases tracedLoadCachedKernel_returns h with ⟨-, rfl, -⟩ | ⟨made, -, -, -, hstore⟩
    · exact hs
    · exact tracedStoreRuntime_holds.of_returns hstore hs
  cases found with
  | some runtime => exact ht
  | none => exact Keeps.bind (tracedCompileKernel_holds hK hr hP) (fun _ => tracedStoreRuntime_holds) t ht

/-- What a call asks for, once it has its configuration. -/
def Asks (answers : Answers driver) (name code : String) (s : Process driver) (request : Request) (root : Path) :
    Prop :=
  ∃ config t, Returns (prepare answers) s (config, root) t ∧ request = Request.of name config code

/-- A call asks with the configuration that it leaves. -/
theorem Asks.remembers {process : Process driver} (h : Asks answers name code process request root) :
    ∃ config, (buildKernel answers name code process).2.compilerConfigCache = some config ∧
      request = Request.of name config code := by
  obtain ⟨config, t, hprepare, hrequest⟩ := h
  refine ⟨config, ?_, hrequest⟩
  rw [buildKernel_of_prepare hprepare]
  have hkeeps : Keeps (fun t : Process driver => t.compilerConfigCache = some config)
      (resume answers name code config root) := resume_keeps (fun _ _ h => h) fun _ _ h => h
  apply hkeeps
  rw [compilerConfig_returns (prepare_returns hprepare).2.1]

theorem Asks.eq_of_config {process : Process driver} (h : Asks answers name code process request root)
    (hconfig : (buildKernel answers name code process).2.compilerConfigCache = some config) :
    request = Request.of name config code := by
  obtain ⟨config', hremembers, hrequest⟩ := h.remembers
  rw [hrequest, Option.some_inj.mp (hremembers.symm.trans hconfig)]

/-- The configuration is remembered. -/
theorem Honest.configured (h : Honest K s) (config : Option CompilerConfig) :
    Honest K ({ s.1 with compilerConfigCache := config }, s.2) := ⟨h.disk, h.kernels⟩

theorem tracedBuildKernel_returns (hK : Separated K) (hs : Honest K s)
    (hasks : ∀ request root, Asks answers name code s.1 request root → request ∈ K)
    (h : Returns (tracedBuildKernel answers world name code) s runtime t) :
    Honest K t ∧ ∃ request root c, Asks answers name code s.1 request root ∧ Came world root request s t c ∧
      c.toRequest = request := by
  obtain ⟨⟨config, root⟩, ⟨u, origins⟩, hprepare, h⟩ := returns_bind.mp h
  obtain ⟨hprepare, rfl⟩ := returns_beside.mp hprepare
  have hask : Asks answers name code s.1 (Request.of name config code) root := ⟨config, u, hprepare, rfl⟩
  obtain rfl : u = _ := compilerConfig_returns (prepare_returns hprepare).2.1
  obtain ⟨ht, c, hcame, hc⟩ := tracedResume_returns hK (hasks _ _ hask) (hs.configured (some config)) h
  refine ⟨ht, _, root, c, hask, ?_, hc⟩
  cases hcame with
  | cached hhit h hsame => exact .cached hhit h hsame
  | loaded hmiss hcubin h hnew => exact .loaded hmiss hcubin h hnew
  | compiled hmiss hcubin hend hnew => exact .compiled hmiss hcubin hend hnew

theorem tracedBuildKernel_stops (hK : Separated K) (hs : Honest K s)
    (hasks : ∀ request root, Asks answers name code s.1 request root → request ∈ K) {e : Stop}
    (h : tracedBuildKernel answers world name code s = (.error e, t)) :
    Honest K t ∧ t.2.kernels = s.2.kernels := by
  rcases stops_bind h with hprepare | ⟨⟨config, root⟩, ⟨u, origins⟩, hprepare, h⟩
  · obtain ⟨hprepare, hnotes⟩ := stops_beside.mp hprepare
    have hkeeps : Keeps (fun process => Honest K (process, s.2)) (prepare answers) :=
      prepare_keeps fun _ _ h => ⟨h.disk, h.kernels⟩
    refine ⟨?_, congrArg Origins.kernels hnotes⟩
    rw [show t = (t.1, s.2) from Prod.ext rfl hnotes]
    exact hkeeps.of_stops hprepare hs
  · obtain ⟨hprepare, rfl⟩ := returns_beside.mp hprepare
    have hr := hasks (Request.of name config code) root ⟨config, u, hprepare, rfl⟩
    obtain rfl : u = _ := compilerConfig_returns (prepare_returns hprepare).2.1
    have hend := tracedResume_stops hK hr (hs.configured (some config)) h
    exact hend

/-- What is compiled now has `P`, and what was there had it. -/
theorem tracedBuildKernel_holds (hK : Separated K) (hP : ∀ request ∈ K, P request ⟨request, world⟩)
    (hs : Stocked K P s) (hasks : ∀ request root, Asks answers name code s.1 request root → request ∈ K) :
    Stocked K P (tracedBuildKernel answers world name code s).2 := by
  have hprepare : Keeps (Stocked K P)
      (beside (prepare answers) : Traced driver W _) := Keeps.beside fun _ => prepare_keeps fun _ _ h => h
  apply ends_bind
  · intro e t h
    exact hprepare.of_stops h hs
  · rintro ⟨config, root⟩ t h
    have hr := hasks _ _ ⟨config, t.1, (returns_beside.mp h).1, rfl⟩
    exact tracedResume_holds hK hr (hP _ hr) t (hprepare.of_returns h hs)

end

end DeepGemmRs.Jit
