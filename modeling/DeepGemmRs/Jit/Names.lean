import DeepGemmRs.Abi.Device

/-!
# Names of the JIT cache

What `build_kernel` makes of the environment, of the compiler and of the kernel before it touches
the cache: `deepgemm_raw_runtime.cc`.

* `Path` : a base and the components joined to it;
* `Host` : what a call reads of the world outside the process;
* `nvccVersion`, `nvccArch`, `compilerFlags`, `CompilerConfig` : the command line of `nvcc`;
* `cacheKey` : the key of the process-wide map;
* `cacheRoot`, `cacheHash`, `dirPath`, `tmpDir` : the directories of a kernel;
* `tmpDir_inj` : two processes have two temporary directories for one kernel;
* `dirPath_inj` : a directory of the cache tells the name and the hash.
-/

namespace DeepGemmRs.Jit

open Checked MachineInt

/-- `std::filesystem::path`: `/` joins a component. -/
structure Path where
  base : String
  parts : List String
deriving DecidableEq

def Path.join (p : Path) (part : String) : Path := { p with parts := p.parts ++ [part] }

/-- `path::string`. -/
def Path.string (p : Path) : String := String.intercalate "/" (p.base :: p.parts)

/-- The world outside the process, as one call finds it. -/
structure Host where
  getenv : String → Option String
  getpid : Nat
  fileExists : String → Bool
  weaklyCanonical : String → String
  /-- `run_command`: exit status and output, unless `popen` fails. -/
  runCommand : String → Option (Int × String)

/-- `DEEPGEMM_STATUS_INTERNAL_ERROR`, which is also what a standard exception becomes. -/
abbrev internal (message : String) : Stop := .status .internalError message

/-- `isspace` in the C locale: also the vertical tab and the form feed. -/
def isSpace (c : Char) : Bool := c.isWhitespace || c = Char.ofNat 11 || c = Char.ofNat 12

/-- `std::atoi`, which skips space and takes the digits at the front; glibc saturates at `long`. -/
def atoi (value : String) : Int :=
  let signed (sign : Int) (digits : List Char) : Int :=
    i32.cast (max i64.lo (min i64.hi (sign * Nat.ofDigitChars 10 (digits.takeWhile Char.isDigit) 0)))
  match value.toList.dropWhile isSpace with
  | '-' :: digits => signed (-1) digits
  | '+' :: digits => signed 1 digits
  | digits => signed 1 digits

def envInt (host : Host) (name : String) (defaultValue : Int) : Int :=
  match host.getenv name with
  | none => defaultValue
  | some value => if value = "" then defaultValue else atoi value

def envString (host : Host) (name : String) : String := (host.getenv name).getD ""

def apostrophe : Char := Char.ofNat 39

/-- `shell_quote`: an apostrophe leaves the quotes, is quoted otherwise, and enters them again. -/
def shellQuote (value : String) : String :=
  let quoted := value.toList.flatMap fun c =>
    if c = apostrophe then [apostrophe, '"', apostrophe, '"', apostrophe] else [c]
  String.ofList (apostrophe :: quoted ++ [apostrophe])

def requireFile (host : Host) (path label : String) : Native Unit :=
  throwIf (¬ host.fileExists path) (.invalid s!"{label} does not exist: {path}")

def runCommand (host : Host) (command : String) : Native (Int × String) :=
  match host.runCommand command with
  | none => .error (internal "failed to run external command")
  | some result => .ok result

def cacheRoot (host : Host) : Native Path := do
  let envCache := envString host "DG_JIT_CACHE_DIR"
  if envCache ≠ "" then .ok ⟨envCache, []⟩
  else
    let home := envString host "HOME"
    throwIf (home = "") (internal "HOME is not set for JIT cache")
    .ok ⟨home, [".deepgemm_rs"]⟩

def fnv1a64 (input : String) : UInt64 :=
  input.toUTF8.toList.foldl (fun hash byte => (hash ^^^ byte.toUInt64) * 1099511628211) 1469598103934665603

/-- `hex_u64`: sixteen digits. -/
def hexU64 (value : UInt64) : String :=
  let digits := Nat.toDigits 16 value.toNat
  String.ofList (List.replicate (16 - digits.length) '0' ++ digits)

/-! ## The compiler -/

/-- The strings that `runtime_init` sets. -/
structure Roots where
  deepgemmRoot : String
  cudaHome : String
  includePath : String
  cutlassIncludePath : String
  cutlassUtilIncludePath : String

/-- The include paths. -/
def Roots.includes (roots : Roots) : List String :=
  [roots.includePath, roots.cutlassIncludePath, roots.cutlassUtilIncludePath]

/-- A process before `runtime_init`. -/
def Roots.empty : Roots := ⟨"", "", "", "", ""⟩

def nvccPath (roots : Roots) (host : Host) : Path :=
  let envNvcc := envString host "DG_JIT_NVCC_COMPILER"
  if envNvcc ≠ "" then ⟨envNvcc, []⟩ else ⟨roots.cudaHome, ["bin", "nvcc"]⟩

/-- The groups of `release ([0-9]+)\.([0-9]+)` at the front of the text. -/
def releaseAt (text : List Char) : Option (List Char × List Char) := do
  let rest ← "release ".toList.isPrefixOf? text
  let major := rest.takeWhile Char.isDigit
  let rest ← ['.'].isPrefixOf? (rest.dropWhile Char.isDigit)
  let minor := rest.takeWhile Char.isDigit
  if major = [] ∨ minor = [] then none else some (major, minor)

/-- `std::regex_search`: the first place that matches. -/
def findRelease : List Char → Option (List Char × List Char)
  | [] => none
  | c :: text => (releaseAt (c :: text)).or (findRelease text)

/-- `std::stoi`, which throws beyond `int`. -/
def stoi (digits : List Char) : Native Int := do
  let value : Int := Nat.ofDigitChars 10 digits 0
  throwIf (¬ i32.Has value) (internal "stoi")
  .ok value

def nvccVersion (host : Host) (nvcc : Path) : Native (Int × Int) := do
  requireFile host nvcc.string "nvcc"
  let (status, output) ← runCommand host (shellQuote nvcc.string ++ " --version")
  throwIf (status ≠ 0) (internal s!"nvcc --version failed: {output}")
  match findRelease output.toList with
  | none => .error (internal s!"failed to parse nvcc version: {output}")
  | some (major, minor) => do
    let major ← stoi major
    let minor ← stoi minor
    throwIf (major < 12 ∨ (major = 12 ∧ minor < 3)) (.unsupported "DeepGEMM requires nvcc >= 12.3")
    .ok (major, minor)

def nvccArch (info : DeviceInfo) (supportsArchFamily : Bool) : String :=
  if info.major = 10 ∧ info.minor ≠ 1 then
    if supportsArchFamily then "100f" else "100a"
  else s!"{info.major * 10 + info.minor}a"

/-- `compiler_flags`; `currentDeviceInfo` is what the driver says of the device at the call. -/
def compilerFlags (roots : Roots) (host : Host) (currentDeviceInfo : Native DeviceInfo) (nvcc : Path) :
    Native String := do
  let (nvccMajor, nvccMinor) ← nvccVersion host nvcc
  let info ← currentDeviceInfo
  let supportsArchFamily := decide (nvccMajor > 12 ∨ (nvccMajor = 12 ∧ nvccMinor ≥ 9))
  let verbose := envInt host "DG_JIT_DEBUG" 0 ≠ 0 ∨ envInt host "DG_JIT_PTXAS_VERBOSE" 0 ≠ 0 ∨
    envInt host "DG_JIT_PTXAS_CHECK" 0 ≠ 0
  let cppStandard := envInt host "DG_JIT_CPP_STANDARD" 20
  .ok ("-std=c++" ++ toString cppStandard
    ++ " --diag-suppress=39,161,174,177,186,940 --ptxas-options=--register-usage-level=10"
    ++ (if verbose then " --ptxas-options=--verbose,--warn-on-local-memory-usage" else "")
    ++ (if envInt host "DG_JIT_WITH_LINEINFO" 0 ≠ 0 then " -Xcompiler -rdynamic -lineinfo" else "")
    ++ " -I" ++ shellQuote roots.includePath
    ++ " -I" ++ shellQuote roots.cutlassIncludePath
    ++ " -I" ++ shellQuote roots.cutlassUtilIncludePath
    ++ " --gpu-architecture=sm_" ++ nvccArch info supportsArchFamily
    ++ " --compiler-options=-fPIC,-O3,-fconcepts,-Wno-deprecated-declarations,-Wno-abi"
    ++ " -O3 --expt-relaxed-constexpr --expt-extended-lambda")

structure CompilerConfig where
  nvcc : Path
  flags : String

/-! ## The directories of a kernel -/

/-- `cache_key` of `build_kernel`. -/
def cacheKey (name : String) (config : CompilerConfig) (code : String) : String :=
  name ++ "$$" ++ config.nvcc.string ++ "$$" ++ config.flags ++ "$$" ++ code

/-- `hash` of `build_kernel`. -/
def cacheHash (cacheKey : String) : String := hexU64 (fnv1a64 cacheKey)

/-- `dir_path`. -/
def dirPath (root : Path) (name hash : String) : Path :=
  (root.join "cache").join ("kernel." ++ name ++ "." ++ hash)

/-- `tmp_dir`. -/
def tmpDir (root : Path) (name : String) (pid : Nat) (hash : String) : Path :=
  (root.join "tmp").join (name ++ "." ++ toString pid ++ "." ++ hash)

theorem tmpDir_ne_dirPath {root root' : Path} {name name' hash hash' : String} {pid : Nat} :
    tmpDir root name pid hash ≠ dirPath root' name' hash' := by
  intro h
  obtain ⟨hparents, -⟩ := List.append_inj' (congrArg Path.parts h) rfl
  obtain ⟨-, hkind⟩ := List.append_inj' hparents rfl
  simp at hkind

/-- The temporary directories of a kernel are told apart by the process. -/
theorem tmpDir_inj {root : Path} {name hash : String} {pid pid' : Nat} :
    tmpDir root name pid hash = tmpDir root name pid' hash ↔ pid = pid' := by
  refine ⟨fun h => ?_, fun h => by rw [h]⟩
  have hparts := congrArg Path.parts h
  simp only [tmpDir, Path.join, List.append_cancel_left_eq, List.cons.injEq, and_true,
    String.append_left_inj, String.append_right_inj] at hparts
  have hdigits : Nat.toDigits 10 pid = Nat.toDigits 10 pid' := by
    have := congrArg String.toList hparts
    simpa using this
  rw [← Nat.ofDigitChars_ten_toDigits (n := pid), hdigits, Nat.ofDigitChars_ten_toDigits]

/-! ## Directories apart -/

/-- What `hexU64` wrote. -/
def readHex (digits : List Char) (value : Nat) : Nat :=
  digits.foldl (fun value c => 16 * value + if c.isDigit then c.toNat - 48 else c.toNat - 87) value

theorem readHex_append (digits digits' : List Char) (value : Nat) :
    readHex (digits ++ digits') value = readHex digits' (readHex digits value) := List.foldl_append

theorem readHex_digit {d : Nat} (hd : d < 16) (value : Nat) : readHex [Nat.digitChar d] value = 16 * value + d := by
  have hvalue : ∀ d < 16, (if (Nat.digitChar d).isDigit then (Nat.digitChar d).toNat - 48
      else (Nat.digitChar d).toNat - 87) = d := by decide
  exact congrArg (16 * value + ·) (hvalue d hd)

theorem readHex_zeros (n : Nat) : readHex (List.replicate n '0') 0 = 0 := by
  induction n with
  | zero => rfl
  | succ n ih =>
    rw [List.replicate_succ]
    exact ih

theorem readHex_toDigits (n : Nat) : readHex (Nat.toDigits 16 n) 0 = n := by
  induction n using Nat.strongRecOn with
  | ind n ih =>
    rw [Nat.toDigits_eq_if (by omega)]
    split
    · rename_i h
      rw [readHex_digit h]
      omega
    · rename_i h
      rw [readHex_append, ih (n / 16) (by omega), readHex_digit (by omega)]
      omega

theorem hexU64_length (value : UInt64) : (hexU64 value).toList.length = 16 := by
  have hdigits : (Nat.toDigits 16 value.toNat).length ≤ 16 :=
    (Nat.length_toDigits_le_iff (by omega) (by omega)).mpr (by have := value.toNat_lt; omega)
  unfold hexU64
  rw [String.toList_ofList, List.length_append, List.length_replicate]
  omega

theorem hexU64_inj {value value' : UInt64} (h : hexU64 value = hexU64 value') : value = value' := by
  have hread : ∀ v : UInt64, readHex (hexU64 v).toList 0 = v.toNat := by
    intro v
    unfold hexU64
    rw [String.toList_ofList, readHex_append, readHex_zeros, readHex_toDigits]
  rw [← UInt64.toNat_inj, ← hread value, ← hread value', h]

/-- The directory of a kernel tells its name and its hash. -/
theorem dirPath_inj {root root' : Path} {name name' : String} {hash hash' : UInt64}
    (h : dirPath root name (hexU64 hash) = dirPath root' name' (hexU64 hash')) : name = name' ∧ hash = hash' := by
  have hparts := congrArg Path.parts h
  have hlast := List.append_inj_right' hparts rfl
  simp only [List.cons.injEq, and_true] at hlast
  have hchars : ("kernel." ++ name ++ ".").toList ++ (hexU64 hash).toList =
      ("kernel." ++ name' ++ ".").toList ++ (hexU64 hash').toList := by
    rw [← String.toList_append, ← String.toList_append]
    exact congrArg String.toList hlast
  obtain ⟨hnames, hhashes⟩ := List.append_inj' hchars ((hexU64_length hash).trans (hexU64_length hash').symm)
  rw [String.toList_inj, String.append_left_inj, String.append_right_inj] at hnames
  exact ⟨hnames, hexU64_inj (String.toList_inj.mp hhashes)⟩

end DeepGemmRs.Jit
