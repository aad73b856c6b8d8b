import DeepGemmRs.Jit.DeviceSwitch
import DeepGemmRs.Lib.Shell

/-!
# The command line of nvcc

What a shell makes of the command that `build_kernel` hands to `popen`.

* `commandLine` : the command, of any four paths and flags; `nvccCommand_eq` : that of `build_kernel`;
* `commandWords`, `flagWords` : the words that are meant;
* `shellQuote_toList` : `shell_quote` is the quoting of `Shell`;
* `reads_command`, `reads_flags` : the two parts of the command, in the order the code appends them;
* `commandLine_words` : **the shell splits the command into the words that are meant**, whatever is in
  the paths.
-/

namespace DeepGemmRs.Jit

open Checked Shell Shell.Recognizer

/-! ## What is meant -/

/-- The command of `build_kernel`. -/
def commandLine (tmpRoot nvcc codePath cubinPath flags : String) : String :=
  "cd " ++ shellQuote tmpRoot ++ " && " ++ shellQuote nvcc ++ " " ++ shellQuote codePath ++ " -cubin -o "
    ++ shellQuote cubinPath ++ " " ++ flags

theorem nvccCommand_eq {tmpRoot tmpDir : Path} {config : CompilerConfig} :
    nvccCommand tmpRoot tmpDir config = commandLine tmpRoot.string config.nvcc.string
      (tmpDir.join "kernel.cu").string (tmpDir.join "kernel.cubin").string config.flags := rfl

/-- A word of the command. -/
def wordOf (text : String) : Token := .word text.toList

/-- The words of the flags; those of the include paths are `-I` and the path as it is. -/
def flagWords (roots : Roots) (host : Host) (architecture : String) : List Token :=
  let verbose := envInt host "DG_JIT_DEBUG" 0 ≠ 0 ∨ envInt host "DG_JIT_PTXAS_VERBOSE" 0 ≠ 0 ∨
    envInt host "DG_JIT_PTXAS_CHECK" 0 ≠ 0
  [wordOf ("-std=c++" ++ toString (envInt host "DG_JIT_CPP_STANDARD" 20)),
    wordOf "--diag-suppress=39,161,174,177,186,940", wordOf "--ptxas-options=--register-usage-level=10"]
  ++ (if verbose then [wordOf "--ptxas-options=--verbose,--warn-on-local-memory-usage"] else [])
  ++ (if envInt host "DG_JIT_WITH_LINEINFO" 0 ≠ 0 then [wordOf "-Xcompiler", wordOf "-rdynamic", wordOf "-lineinfo"]
    else [])
  ++ [wordOf ("-I" ++ roots.includePath), wordOf ("-I" ++ roots.cutlassIncludePath),
    wordOf ("-I" ++ roots.cutlassUtilIncludePath), wordOf ("--gpu-architecture=sm_" ++ architecture),
    wordOf "--compiler-options=-fPIC,-O3,-fconcepts,-Wno-deprecated-declarations,-Wno-abi",
    wordOf "-O3", wordOf "--expt-relaxed-constexpr", wordOf "--expt-extended-lambda"]

def commandWords (tmpRoot nvcc codePath cubinPath : String) : List Token :=
  [wordOf "cd", wordOf tmpRoot, .operator ['&', '&'], wordOf nvcc, wordOf codePath, wordOf "-cubin", wordOf "-o",
    wordOf cubinPath]

/-! ## Words -/

section

variable {shell : Recognizer}

theorem shellQuote_toList (value : String) : (shellQuote value).toList = quote value.toList := by
  unfold shellQuote
  rw [String.toList_ofList]
  rfl

theorem spells_shellQuote (value : String) : shell.Spells (shellQuote value).toList value.toList := by
  rw [shellQuote_toList]
  exact spells_quote

theorem ordinary_repr {n : Nat} : ∀ c ∈ n.repr.toList, Ordinary c := by
  intro c hc
  have hmem : c ∈ Nat.toDigits 10 n := by simpa using hc
  have hdigit : c.isDigit := Nat.isDigit_of_mem_toDigits (by decide) (by decide) hmem
  refine .inl ?_
  unfold Char.isAlphanum
  rw [hdigit, Bool.or_true]

theorem ordinary_toString {n : Int} : ∀ c ∈ (toString n).toList, Ordinary c := by
  rw [Int.toString_eq_repr]
  cases n with
  | ofNat m => exact ordinary_repr
  | negSucc m =>
    intro c hc
    unfold Int.repr at hc
    rw [String.toList_append, List.mem_append] at hc
    rcases hc with hminus | hdigits
    · rw [List.mem_singleton.mp hminus]
      decide
    · exact ordinary_repr c hdigits

theorem ordinary_append {a b : String} (ha : ∀ c ∈ a.toList, Ordinary c) (hb : ∀ c ∈ b.toList, Ordinary c) :
    ∀ c ∈ (a ++ b).toList, Ordinary c := by
  intro c hc
  rw [String.toList_append, List.mem_append] at hc
  exact hc.elim (ha c) (hb c)

theorem ordinary_nvccArch {info : DeviceInfo} {family : Bool} : ∀ c ∈ (nvccArch info family).toList, Ordinary c := by
  unfold nvccArch
  split
  · cases family <;> decide
  · exact ordinary_append ordinary_toString (by decide)

theorem ordinary_gpuArchitecture {host : Host} {info : Native DeviceInfo} {nvcc : Path} {architecture : String}
    (h : gpuArchitecture host info nvcc = .ok architecture) : ∀ c ∈ architecture.toList, Ordinary c := by
  obtain ⟨version, -, h⟩ := bind_eq_ok.mp h
  obtain ⟨device, -, h⟩ := bind_eq_ok.mp h
  cases h
  exact ordinary_nvccArch

/-! ## The line -/

/-- The words that are written in the code. -/
def literalWords : List String :=
  ["cd", "-cubin", "-o", "-I", "--diag-suppress=39,161,174,177,186,940", "--ptxas-options=--register-usage-level=10",
    "--ptxas-options=--verbose,--warn-on-local-memory-usage", "-Xcompiler", "-rdynamic", "-lineinfo",
    "--compiler-options=-fPIC,-O3,-fconcepts,-Wno-deprecated-declarations,-Wno-abi", "-O3",
    "--expt-relaxed-constexpr", "--expt-extended-lambda"]

theorem literalWords_ordinary : ∀ text ∈ literalWords, text.toList ≠ [] ∧ ∀ c ∈ text.toList, Ordinary c := by
  decide +kernel

variable {line piece : String} {tokens : List Token}

/-- A blank, and a word without a meaning to the shell. -/
theorem reads_word {text : String} (hne : text.toList ≠ []) (hall : ∀ c ∈ text.toList, Ordinary c)
    (h : shell.Reads line.toList tokens) : shell.Reads (line ++ (" " ++ text)).toList (tokens ++ [wordOf text]) := by
  rw [String.toList_append, String.toList_append]
  exact h.next (spells_ordinary hne hall)

/-- Words, each after a blank. -/
def spaced (texts : List String) : String := texts.foldr (fun text rest => " " ++ text ++ rest) ""

/-- A part of the code's string, of words that are written there. -/
theorem reads_literals (piece : String) (texts : List String) (hpiece : piece = spaced texts)
    (hmem : ∀ text ∈ texts, text ∈ literalWords) (h : shell.Reads line.toList tokens) :
    shell.Reads (line ++ piece).toList (tokens ++ texts.map wordOf) := by
  subst hpiece
  induction texts generalizing line tokens with
  | nil =>
    rw [List.map_nil, List.append_nil]
    simpa [spaced] using h
  | cons text texts ih =>
    obtain ⟨hne, hall⟩ := literalWords_ordinary text (hmem text List.mem_cons_self)
    have hrest := ih (fun t ht => hmem t (List.mem_cons_of_mem text ht)) (reads_word hne hall h)
    rw [String.append_assoc, List.append_assoc] at hrest
    exact hrest

/-- A blank, and a path. -/
theorem reads_path (path : String) (h : shell.Reads line.toList tokens) :
    shell.Reads (line ++ (" " ++ shellQuote path)).toList (tokens ++ [wordOf path]) := by
  rw [String.toList_append, String.toList_append]
  exact h.next (spells_shellQuote path)

/-- More of the last word. -/
theorem reads_join {text more : String} (hs : shell.Spells piece.toList more.toList)
    (h : shell.Reads line.toList (tokens ++ [wordOf text])) :
    shell.Reads (line ++ piece).toList (tokens ++ [wordOf (text ++ more)]) := by
  unfold wordOf
  rw [String.toList_append, String.toList_append]
  exact h.join hs

/-- A blank and `-I`; a quoted path goes on with the word. -/
theorem reads_include (path : String) (h : shell.Reads line.toList tokens) :
    shell.Reads (line ++ " -I" ++ shellQuote path).toList (tokens ++ [wordOf ("-I" ++ path)]) := by
  have hbegun := reads_literals " -I" ["-I"] rfl (by decide) h
  exact reads_join (spells_shellQuote path) hbegun

theorem reads_option {p : Prop} [Decidable p] {more : List Token} (h : shell.Reads line.toList tokens)
    (hmore : shell.Reads (line ++ piece).toList (tokens ++ more)) :
    shell.Reads (line ++ if p then piece else "").toList (tokens ++ if p then more else []) := by
  rw [String.toList_append] at hmore ⊢
  rw [apply_ite String.toList]
  exact h.option hmore

variable {roots : Roots} {host : Host} {architecture : String}

/-- The flags, after a blank. -/
theorem reads_flags (h : shell.Reads line.toList tokens) (harch : ∀ c ∈ architecture.toList, Ordinary c) :
    shell.Reads (line ++ (" " ++ flagsFor roots host architecture)).toList
      (tokens ++ flagWords roots host architecture) := by
  have hstandard : ∀ c ∈ ("-std=c++" ++ toString (envInt host "DG_JIT_CPP_STANDARD" 20)).toList, Ordinary c :=
    ordinary_append (by decide) ordinary_toString
  have hsettings := reads_literals " --diag-suppress=39,161,174,177,186,940 --ptxas-options=--register-usage-level=10"
    ["--diag-suppress=39,161,174,177,186,940", "--ptxas-options=--register-usage-level=10"] rfl (by decide)
    (reads_word (by simp) hstandard h)
  have hverbose := reads_option (p := envInt host "DG_JIT_DEBUG" 0 ≠ 0 ∨ envInt host "DG_JIT_PTXAS_VERBOSE" 0 ≠ 0 ∨
    envInt host "DG_JIT_PTXAS_CHECK" 0 ≠ 0) hsettings
    (reads_literals " --ptxas-options=--verbose,--warn-on-local-memory-usage"
      ["--ptxas-options=--verbose,--warn-on-local-memory-usage"] rfl (by decide) hsettings)
  have hlineinfo := reads_option (p := envInt host "DG_JIT_WITH_LINEINFO" 0 ≠ 0) hverbose
    (reads_literals " -Xcompiler -rdynamic -lineinfo"
      ["-Xcompiler", "-rdynamic", "-lineinfo"] rfl (by decide) hverbose)
  have hincludes := reads_include roots.cutlassUtilIncludePath
    (reads_include roots.cutlassIncludePath (reads_include roots.includePath hlineinfo))
  have hsm : ∀ c ∈ ("--gpu-architecture=sm_" ++ architecture).toList, Ordinary c :=
    ordinary_append (by decide) harch
  have hall := reads_literals (" --compiler-options=-fPIC,-O3,-fconcepts,-Wno-deprecated-declarations,-Wno-abi"
      ++ " -O3 --expt-relaxed-constexpr --expt-extended-lambda")
    ["--compiler-options=-fPIC,-O3,-fconcepts,-Wno-deprecated-declarations,-Wno-abi", "-O3",
      "--expt-relaxed-constexpr", "--expt-extended-lambda"] rfl (by decide) (reads_word (by simp) hsm hincludes)
  have hblank : " --gpu-architecture=sm_" = " " ++ "--gpu-architecture=sm_" := rfl
  unfold flagsFor flagsBefore flagWords
  simp only [hblank, String.append_assoc, List.append_assoc, List.map_cons, List.map_nil, List.cons_append,
    List.nil_append] at hall ⊢
  exact hall

/-- Flags tell the include paths, whatever the settings and the device. -/
theorem includes_of_flags {roots roots' : Roots} {host host' : Host} {info info' : Native DeviceInfo}
    {nvcc nvcc' : Path} {flags : String} (h : compilerFlags roots host info nvcc = .ok flags)
    (h' : compilerFlags roots' host' info' nvcc' = .ok flags) : roots.includes = roots'.includes := by
  obtain ⟨architecture, harch, rfl⟩ := compilerFlags_eq.mp h
  obtain ⟨architecture', harch', hsame⟩ := compilerFlags_eq.mp h'
  have hline : posix.Reads "cd".toList [wordOf "cd"] := reads_of_spells (spells_ordinary (by decide) (by decide))
  have hreads : posix.Reads ("cd" ++ (" " ++ flagsFor roots host architecture)).toList
      ([wordOf "cd"] ++ flagWords roots host architecture) := reads_flags hline (ordinary_gpuArchitecture harch)
  have hsplit := hreads.split
  rw [hsame, (reads_flags hline (ordinary_gpuArchitecture harch')).split, Option.some_inj] at hsplit
  have hwords : flagWords roots' host' architecture' = flagWords roots host architecture :=
    List.append_cancel_left hsplit
  obtain ⟨-, hpaths⟩ := List.append_inj' hwords rfl
  simp only [List.cons.injEq, wordOf, Token.word.injEq, String.toList_inj, String.append_right_inj] at hpaths
  obtain ⟨hinclude, hcutlass, hutil, -⟩ := hpaths
  unfold Roots.includes
  rw [hinclude, hcutlass, hutil]

/-- The command, up to its flags. -/
def commandHead (tmpRoot nvcc codePath cubinPath : String) : String :=
  "cd" ++ (" " ++ shellQuote tmpRoot) ++ " &&" ++ (" " ++ shellQuote nvcc) ++ (" " ++ shellQuote codePath)
    ++ " -cubin -o" ++ (" " ++ shellQuote cubinPath)

theorem commandLine_eq {tmpRoot nvcc codePath cubinPath flags : String} :
    commandLine tmpRoot nvcc codePath cubinPath flags =
      commandHead tmpRoot nvcc codePath cubinPath ++ (" " ++ flags) := by
  have hcd : "cd " = "cd" ++ " " := rfl
  have hand : " && " = " &&" ++ " " := rfl
  have hcubin : " -cubin -o " = " -cubin -o" ++ " " := rfl
  unfold commandLine commandHead
  simp only [hcd, hand, hcubin, String.append_assoc]

theorem reads_command {tmpRoot nvcc codePath cubinPath : String} :
    shell.Reads (commandHead tmpRoot nvcc codePath cubinPath).toList
      (commandWords tmpRoot nvcc codePath cubinPath) := by
  have hcd : shell.Reads "cd".toList [wordOf "cd"] := reads_of_spells (spells_ordinary (by decide) (by decide))
  have hand : shell.Reads ("cd" ++ (" " ++ shellQuote tmpRoot) ++ " &&").toList
      ([wordOf "cd"] ++ [wordOf tmpRoot] ++ [.operator ['&', '&']]) := by
    rw [String.toList_append]
    exact (reads_path tmpRoot hcd).and
  have hnvcc := reads_path codePath (reads_path nvcc hand)
  exact reads_path cubinPath (reads_literals " -cubin -o" ["-cubin", "-o"] rfl (by decide) hnvcc)

/-- **The shell splits the command into `cd`, the directory, `&&`, the compiler, the two files and the flags, each
include path in one word with its `-I`: whatever characters are in the paths, and whatever the settings are.** -/
theorem commandLine_words (shell : Recognizer) {info : Native DeviceInfo} {nvcc : Path} {flags : String}
    (h : compilerFlags roots host info nvcc = .ok flags) :
    ∃ architecture, gpuArchitecture host info nvcc = .ok architecture ∧
      (∀ tmpRoot compiler codePath cubinPath : String,
        shell.split (commandLine tmpRoot compiler codePath cubinPath flags).toList =
          some (commandWords tmpRoot compiler codePath cubinPath ++ flagWords roots host architecture)) ∧
      ∀ (tmpRoot tmp : Path) (config : CompilerConfig), config.flags = flags →
        shell.split (nvccCommand tmpRoot tmp config).toList =
          some (commandWords tmpRoot.string config.nvcc.string (tmp.join "kernel.cu").string
            (tmp.join "kernel.cubin").string ++ flagWords roots host architecture) := by
  obtain ⟨architecture, harch, rfl⟩ := compilerFlags_eq.mp h
  have hsplit : ∀ tmpRoot compiler codePath cubinPath : String,
      shell.split (commandLine tmpRoot compiler codePath cubinPath (flagsFor roots host architecture)).toList =
        some (commandWords tmpRoot compiler codePath cubinPath ++ flagWords roots host architecture) := by
    intro tmpRoot compiler codePath cubinPath
    rw [commandLine_eq]
    exact (reads_flags reads_command (ordinary_gpuArchitecture harch)).split
  refine ⟨architecture, harch, hsplit, ?_⟩
  intro tmpRoot tmp config hconfig
  rw [nvccCommand_eq, hconfig]
  exact hsplit _ _ _ _

end

/-- An include path with quotes, blanks and more. -/
def quotedRoots : Roots := { obligingRoots with includePath := "/it's a \"$(path)\";\n" }

theorem commandLine_words_posix : ∃ flags,
    compilerFlags quotedRoots obliging.toHost (.ok h100) (nvccPath quotedRoots obliging.toHost) = .ok flags ∧
    ∃ architecture,
      gpuArchitecture obliging.toHost (.ok h100) (nvccPath quotedRoots obliging.toHost) = .ok architecture ∧
      (∀ tmpRoot compiler codePath cubinPath : String,
        posix.split (commandLine tmpRoot compiler codePath cubinPath flags).toList =
          some (commandWords tmpRoot compiler codePath cubinPath
            ++ flagWords quotedRoots obliging.toHost architecture)) ∧
      ∀ (tmpRoot tmp : Path) (config : CompilerConfig), config.flags = flags →
        posix.split (nvccCommand tmpRoot tmp config).toList =
          some (commandWords tmpRoot.string config.nvcc.string (tmp.join "kernel.cu").string
            (tmp.join "kernel.cubin").string ++ flagWords quotedRoots obliging.toHost architecture) := by
  have hflags : ∃ flags, compilerFlags quotedRoots obliging.toHost (.ok h100)
      (nvccPath quotedRoots obliging.toHost) = .ok flags := by
    unfold compilerFlags
    rw [obliging_version]
    exact ⟨_, rfl⟩
  obtain ⟨flags, hflags⟩ := hflags
  exact ⟨flags, hflags, commandLine_words posix hflags⟩

end DeepGemmRs.Jit
