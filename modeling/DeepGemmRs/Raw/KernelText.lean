import DeepGemmRs.Lib.Streamed
import DeepGemmRs.Raw.GemmConfig

/-!
# The texts of the kernels

The functions of `deepgemm_raw_mqa.cc` and `deepgemm_raw_gemm.cc` that write the source `nvcc` compiles: an
instance of a kernel template, its arguments streamed between fixed lines.

* `KernelDtype`, `kernelDtypeName` : the C++ names of element types;
* `Value`, `printer` : template arguments, and how they are streamed;
* `sm90MqaLogitsCode` … `broadcastTransposeAndPackFp32Code` : the texts, one function each;
* `KernelText`, `KernelText.name`, `KernelText.code` : what `build_kernel` is asked for.
-/

namespace DeepGemmRs.Raw

open Checked Streamed

/-- The element types that `kernel_dtype_name` knows. -/
inductive KernelDtype where
  | int
  | float
  | bfloat16
  | floatE4M3
  | floatE2M1Unpacksmem
deriving DecidableEq, Repr

def KernelDtype.name : KernelDtype → String
  | .int => "int"
  | .float => "float"
  | .bfloat16 => "cutlass::bfloat16_t"
  | .floatE4M3 => "cutlass::float_e4m3_t"
  | .floatE2M1Unpacksmem => "cutlass::detail::float_e2m1_unpacksmem_t"

def kernelDtypeName (dtype : DTypeCode) : Native KernelDtype :=
  if dtype = DTypeCode.i32 then .ok .int
  else if dtype = DTypeCode.f32 then .ok .float
  else if dtype = DTypeCode.bf16 then .ok .bfloat16
  else if dtype = DTypeCode.fp8E4M3 then .ok .floatE4M3
  else if dtype = DTypeCode.packedFp4E2M1 then .ok .floatE2M1Unpacksmem
  else .error (.invalid "unsupported kernel dtype")

/-- What is streamed as a template argument. -/
inductive Value where
  | int (value : Int)
  | bool (value : Bool)
  | dtype (value : KernelDtype)
deriving DecidableEq

def boolLiteral (value : Bool) : String := if value then "true" else "false"

def Value.print : Value → String
  | .int value => toString value
  | .bool value => boolLiteral value
  | .dtype value => value.name

/-- A text before `str()`. -/
abbrev Code : Type := List (Piece Value)

namespace Code

def lit (text : String) : Piece Value := .lit text

def int (value : Int) : Piece Value := .val (.int value)

def bool (value : Bool) : Piece Value := .val (.bool value)

def dtypeName (value : KernelDtype) : Piece Value := .val (.dtype value)

end Code

open Code

/-- The lines that all templates share, around the arguments. -/
def instantiation (header kernel : String) (arguments : Code) : Code := [
  lit ("#include <" ++ header ++ ">\n\n"),
  lit "using namespace deep_gemm;\n\n",
  lit "static void __instantiate_kernel() \x7b\n",
  lit ("    auto ptr = reinterpret_cast<void*>(&" ++ kernel ++ "<\n")] ++ arguments ++ [
  lit "    >);\n",
  lit "\x7d;\n"]

/-! ## The MQA kernels -/

def sm90MqaLogitsCode (numHeads headDim : Int) (isCompressedLogits : Bool) (blockQ blockKv numQStages numKvStages
    numSms numSpecializedThreads numMathThreads : Int) (logitsDtype : DTypeCode) : Native Code := do
  let logitsName ← kernelDtypeName logitsDtype
  .ok (instantiation "deep_gemm/impls/sm90_fp8_mqa_logits.cuh" "sm90_fp8_mqa_logits" [
    lit "        ", int numHeads, lit ", ", int headDim, lit ",\n",
    lit "        ", bool isCompressedLogits, lit ",\n",
    lit "        ", int blockQ, lit ", ", int blockKv, lit ",\n",
    lit "        ", int numQStages, lit ", ", int numKvStages, lit ",\n",
    lit "        ", int numSms, lit ",\n",
    lit "        ", int numSpecializedThreads, lit ", ", int numMathThreads, lit ",\n",
    lit "        ", dtypeName logitsName, lit "\n"])

/-- `weights_dtype == DEEPGEMM_DTYPE_BF16 ? "cutlass::bfloat16_t" : "float"`. -/
def weightsName (weightsDtype : DTypeCode) : KernelDtype := if weightsDtype = DTypeCode.bf16 then .bfloat16 else .float

def sm100MqaLogitsCode (isFp4 : Bool) (numHeads headDim : Int) (isCompressedLogits : Bool) (blockQ splitKv numQStages
    numKvStages numSms numSpecializedThreads numMathThreads : Int) (logitsDtype weightsDtype : DTypeCode) :
    Native Code := do
  let logitsName ← kernelDtypeName logitsDtype
  .ok (instantiation "deep_gemm/impls/sm100_mqa_logits.cuh" "sm100_mqa_logits" [
    lit "        ", bool isFp4, lit ",\n",
    lit "        ", int numHeads, lit ", ", int headDim, lit ",\n",
    lit "        ", bool isCompressedLogits, lit ",\n",
    lit "        ", int blockQ, lit ", ", int splitKv, lit ",\n",
    lit "        ", int numQStages, lit ", ", int numKvStages, lit ",\n",
    lit "        ", int numSms, lit ",\n",
    lit "        ", int numSpecializedThreads, lit ", ", int numMathThreads, lit ",\n",
    lit "        ", dtypeName logitsName, lit ",\n",
    lit "        ", dtypeName (weightsName weightsDtype), lit "\n"])

def cleanLogitsCode (nextN blockKv numWarps : Int) (logitsDtype : DTypeCode) : Native Code := do
  let logitsName ← kernelDtypeName logitsDtype
  .ok (instantiation "deep_gemm/impls/smxx_clean_logits.cuh" "smxx_clean_logits" [
    lit "        ", int nextN, lit ", ", int blockKv, lit ", ", int numWarps, lit ", ",
    dtypeName logitsName, lit "\n"])

def sm90MetadataCode (alignedBatchSize splitKv numSms : Int) (isVarlen : Bool) : Code :=
  instantiation "deep_gemm/scheduler/sm90_paged_mqa_logits.cuh" "sched::sm90_paged_mqa_logits_metadata" [
    lit "        ", int alignedBatchSize, lit ", ", int splitKv, lit ", ", int numSms, lit ", ",
    bool isVarlen, lit "\n"]

def sm100MetadataCode (nextN : Int) (isContextLens2d isVarlen : Bool) (splitKv numSms : Int) : Code :=
  instantiation "deep_gemm/scheduler/sm100_paged_mqa_logits.cuh" "sched::sm100_paged_mqa_logits_metadata" [
    lit "        ", int nextN, lit ", ", bool isContextLens2d, lit ", ",
    bool isVarlen, lit ", 1, ", int splitKv, lit ", ", int numSms, lit "\n"]

def sm90PagedMqaLogitsCode (nextN numHeads headDim blockKv : Int) (isContextLens2d isVarlen : Bool) (numQStages
    numKvStages splitKv numSpecializedThreads numMathThreads : Int) (logitsDtype : DTypeCode) : Native Code := do
  let logitsName ← kernelDtypeName logitsDtype
  .ok (instantiation "deep_gemm/impls/sm90_fp8_paged_mqa_logits.cuh" "sm90_fp8_paged_mqa_logits" [
    lit "        ", int nextN, lit ", ", int numHeads, lit ",\n",
    lit "        ", int headDim, lit ", ", int blockKv, lit ",\n",
    lit "        ", bool isContextLens2d, lit ", ",
    bool isVarlen, lit ",\n",
    lit "        ", int numQStages, lit ", ", int numKvStages, lit ",\n",
    lit "        ", int splitKv, lit ",\n",
    lit "        ", int numSpecializedThreads, lit ", ", int numMathThreads, lit ",\n",
    lit "        ", dtypeName logitsName, lit "\n"])

def sm100PagedMqaLogitsCode (isFp4 : Bool) (tokensPerRequest numHeads headDim pageKv : Int)
    (isContextLens2d isVarlen : Bool) (numQStages numKvStages splitKv splitsPerChunk numSpecializedThreads
    numMathThreads : Int) (logitsDtype weightsDtype : DTypeCode) : Native Code := do
  let logitsName ← kernelDtypeName logitsDtype
  .ok (instantiation "deep_gemm/impls/sm100_mqa_logits.cuh" "sm100_paged_mqa_logits" [
    lit "        ", bool isFp4, lit ",\n",
    lit "        ", int tokensPerRequest, lit ", ", int numHeads, lit ",\n",
    lit "        ", int headDim, lit ", ", int pageKv, lit ",\n",
    lit "        ", bool isContextLens2d, lit ", ",
    bool isVarlen, lit ",\n",
    lit "        ", int numQStages, lit ", ", int numKvStages, lit ",\n",
    lit "        ", int splitKv, lit ", ", int splitsPerChunk, lit ",\n",
    lit "        ", int numSpecializedThreads, lit ", ", int numMathThreads, lit ",\n",
    lit "        ", dtypeName logitsName, lit ",\n",
    lit "        ", dtypeName (weightsName weightsDtype), lit "\n"])

/-! ## The GEMM kernels -/

open Gemm (GemmConfig)

def sm90Fp8Gemm1d2dCode (n k : Int) (config : GemmConfig) (numSms : Int) : Code :=
  instantiation "deep_gemm/impls/sm90_fp8_gemm_1d2d.cuh" "sm90_fp8_gemm_1d2d_impl" [
    lit "        cute::UMMA::Major::K,\n",
    lit "        0, ", int n, lit ", ", int k, lit ",\n",
    lit "        1,\n",
    lit "        ", int config.layout.blockM, lit ", ", int config.layout.blockN, lit ", ",
    int config.layout.blockK, lit ",\n",
    lit "        ", int config.storage.swizzleAMode, lit ", ",
    int config.storage.swizzleBMode, lit ", ", int config.storage.swizzleCdMode, lit ",\n",
    lit "        ", int config.pipeline.numStages, lit ",\n",
    lit "        ", int config.launch.numTmaThreads, lit ", ", int config.launch.numMathThreads, lit ",\n",
    lit "        ", int config.layout.clusterSize, lit ", ",
    bool (config.layout.clusterN > 1), lit ",\n",
    lit "        ", int numSms, lit ", GemmType::Normal,\n",
    lit "        cutlass::bfloat16_t,\n",
    lit "        epilogue::transform::EpilogueIdentity\n"]

def sm100Fp8Gemm1d1dCode (n k granKA granKB : Int) (config : GemmConfig) (numSms : Int) : Code :=
  instantiation "deep_gemm/impls/sm100_fp8_fp4_gemm_1d1d.cuh" "sm100_fp8_fp4_gemm_1d1d_impl" [
    lit "        cute::UMMA::Major::K, cute::UMMA::Major::K,\n",
    lit "        ", int granKA, lit ", ", int granKB, lit ", ", int granKA, lit ",\n",
    lit "        0, ", int n, lit ", ", int k, lit ",\n",
    lit "        ", int config.layout.blockM, lit ", ", int config.layout.blockN, lit ", ",
    int config.layout.blockK, lit ",\n",
    lit "        1,\n",
    lit "        ", int config.storage.swizzleAMode, lit ", ",
    int config.storage.swizzleBMode, lit ", ", int config.storage.swizzleCdMode, lit ",\n",
    lit "        ", int config.pipeline.numStages, lit ",\n",
    lit "        ", int config.launch.numNonEpilogueThreads, lit ", ",
    int config.launch.numEpilogueThreads, lit ",\n",
    lit "        ", int config.layout.clusterSize, lit ", ",
    bool (config.layout.clusterN > 1), lit ",\n",
    lit "        ", int numSms, lit ",\n",
    lit "        ", bool config.layout.swapAb, lit ", true,\n",
    lit "        GemmType::Normal, false,\n",
    lit "        cutlass::float_e4m3_t, cutlass::float_e4m3_t, cutlass::bfloat16_t,\n",
    lit "        epilogue::transform::EpilogueIdentity\n"]

/-! ## The kernels of the scales -/

def transposeFp32Code (numThreads blockMn sfK : Int) : Code :=
  instantiation "deep_gemm/impls/smxx_layout.cuh" "transpose_fp32" [
    lit "        ", int numThreads, lit ", ", int blockMn, lit ", ", int sfK, lit "\n"]

def transposeAndPackFp32Code (numThreads blockMn sfK : Int) : Code :=
  instantiation "deep_gemm/impls/smxx_layout.cuh" "transpose_and_pack_fp32_into_ue8m0" [
    lit "        ", int numThreads, lit ", ", int blockMn, lit ", ", int sfK, lit ", 1, false\n"]

def broadcastTransposeFp32Code : Code := [lit (
  "\n" ++
  "#include <cstdint>\n" ++
  "\n" ++
  "extern \"C\" __global__ void broadcast_transpose_fp32(\n" ++
  "    const float* scale, float* transformed, uint32_t mn, uint32_t sf_k,\n" ++
  "    uint32_t gran_mn, uint32_t aligned_mn) \x7b\n" ++
  "  const uint64_t linear =\n" ++
  "      static_cast<uint64_t>(blockIdx.x) * blockDim.x + threadIdx.x;\n" ++
  "  const uint64_t count = static_cast<uint64_t>(mn) * sf_k;\n" ++
  "  if (linear >= count) \x7b\n" ++
  "    return;\n" ++
  "  \x7d\n" ++
  "  const uint32_t mn_idx = static_cast<uint32_t>(linear / sf_k);\n" ++
  "  const uint32_t k_idx = static_cast<uint32_t>(linear % sf_k);\n" ++
  "  transformed[static_cast<uint64_t>(k_idx) * aligned_mn + mn_idx] =\n" ++
  "      scale[static_cast<uint64_t>(mn_idx / gran_mn) * sf_k + k_idx];\n" ++
  "\x7d\n")]

def broadcastTransposeAndPackFp32Code : Code := [lit (
  "\n" ++
  "#include <cstdint>\n" ++
  "\n" ++
  "extern \"C\" __global__ void broadcast_transpose_and_pack_fp32_into_ue8m0(\n" ++
  "    const float* scale, uint32_t* transformed, uint32_t mn, uint32_t sf_k,\n" ++
  "    uint32_t packed_sf_k, uint32_t gran_mn, uint32_t aligned_mn) \x7b\n" ++
  "  const uint64_t linear =\n" ++
  "      static_cast<uint64_t>(blockIdx.x) * blockDim.x + threadIdx.x;\n" ++
  "  const uint64_t count = static_cast<uint64_t>(mn) * packed_sf_k;\n" ++
  "  if (linear >= count) \x7b\n" ++
  "    return;\n" ++
  "  \x7d\n" ++
  "  const uint32_t mn_idx = static_cast<uint32_t>(linear / packed_sf_k);\n" ++
  "  const uint32_t packed_k_idx = static_cast<uint32_t>(linear % packed_sf_k);\n" ++
  "  const uint64_t input_row = static_cast<uint64_t>(mn_idx / gran_mn) * sf_k;\n" ++
  "\n" ++
  "  uint32_t packed = 0;\n" ++
  "#pragma unroll\n" ++
  "  for (uint32_t lane = 0; lane < 4; ++lane) \x7b\n" ++
  "    const uint32_t k_idx = packed_k_idx * 4 + lane;\n" ++
  "    if (k_idx < sf_k) \x7b\n" ++
  "      const uint32_t bits =\n" ++
  "          reinterpret_cast<const uint32_t*>(scale)[input_row + k_idx];\n" ++
  "      if ((bits & 0x807fffffu) != 0 || bits == 0 ||\n" ++
  "          (bits & 0x7f800000u) == 0x7f800000u) \x7b\n" ++
  "        asm(\"trap;\");\n" ++
  "      \x7d\n" ++
  "      packed |= (bits >> 23u) << (lane * 8u);\n" ++
  "    \x7d\n" ++
  "  \x7d\n" ++
  "  transformed[static_cast<uint64_t>(packed_k_idx) * aligned_mn + mn_idx] =\n" ++
  "      packed;\n" ++
  "\x7d\n")]

/-! ## What `build_kernel` is asked for -/

/-- A kernel, by the function that writes its text and what that is called with. -/
inductive KernelText where
  | sm90MqaLogits (numHeads headDim : Int) (isCompressedLogits : Bool) (blockQ blockKv numQStages numKvStages numSms
      numSpecializedThreads numMathThreads : Int) (logitsDtype : DTypeCode)
  | sm100MqaLogits (isFp4 : Bool) (numHeads headDim : Int) (isCompressedLogits : Bool) (blockQ splitKv numQStages
      numKvStages numSms numSpecializedThreads numMathThreads : Int) (logitsDtype weightsDtype : DTypeCode)
  | cleanLogits (nextN blockKv numWarps : Int) (logitsDtype : DTypeCode)
  | sm90Metadata (alignedBatchSize splitKv numSms : Int) (isVarlen : Bool)
  | sm100Metadata (nextN : Int) (isContextLens2d isVarlen : Bool) (splitKv numSms : Int)
  | sm90PagedMqaLogits (nextN numHeads headDim blockKv : Int) (isContextLens2d isVarlen : Bool) (numQStages
      numKvStages splitKv numSpecializedThreads numMathThreads : Int) (logitsDtype : DTypeCode)
  | sm100PagedMqaLogits (isFp4 : Bool) (tokensPerRequest numHeads headDim pageKv : Int)
      (isContextLens2d isVarlen : Bool) (numQStages numKvStages splitKv splitsPerChunk numSpecializedThreads
      numMathThreads : Int) (logitsDtype weightsDtype : DTypeCode)
  | sm90Gemm (n k : Int) (config : GemmConfig) (numSms : Int)
  | sm100Gemm (n k granKA granKB : Int) (config : GemmConfig) (numSms : Int)
  | transpose (numThreads blockMn sfK : Int)
  | transposeAndPack (numThreads blockMn sfK : Int)
  | broadcast
  | broadcastAndPack

/-- The kernels, by name. -/
inductive KernelFamily where
  | sm90MqaLogits
  | sm100MqaLogits
  | cleanLogits
  | sm90Metadata
  | sm100Metadata
  | sm90PagedMqaLogits
  | sm100PagedMqaLogits
  | sm90Gemm
  | sm100Gemm
  | transpose
  | transposeAndPack
  | broadcast
  | broadcastAndPack
deriving DecidableEq

def KernelFamily.name : KernelFamily → String
  | sm90MqaLogits => "sm90_fp8_mqa_logits"
  | sm100MqaLogits => "sm100_mqa_logits"
  | cleanLogits => "smxx_clean_logits"
  | sm90Metadata => "sm90_paged_mqa_logits_metadata"
  | sm100Metadata => "sm100_paged_mqa_logits_metadata"
  | sm90PagedMqaLogits => "sm90_fp8_paged_mqa_logits"
  | sm100PagedMqaLogits => "sm100_paged_mqa_logits"
  | sm90Gemm => "sm90_fp8_gemm_1d2d"
  | sm100Gemm => "sm100_fp8_gemm_1d1d"
  | transpose => "transpose_fp32"
  | transposeAndPack => "transpose_and_pack_fp32_into_ue8m0"
  | broadcast => "broadcast_transpose_fp32"
  | broadcastAndPack => "broadcast_transpose_and_pack_fp32_into_ue8m0"

/-- A kernel of the schedulers of the paged logits. -/
def KernelFamily.IsScheduler (family : KernelFamily) : Prop := family = .sm90Metadata ∨ family = .sm100Metadata

namespace KernelText

def family : KernelText → KernelFamily
  | sm90MqaLogits .. => .sm90MqaLogits
  | sm100MqaLogits .. => .sm100MqaLogits
  | cleanLogits .. => .cleanLogits
  | sm90Metadata .. => .sm90Metadata
  | sm100Metadata .. => .sm100Metadata
  | sm90PagedMqaLogits .. => .sm90PagedMqaLogits
  | sm100PagedMqaLogits .. => .sm100PagedMqaLogits
  | sm90Gemm .. => .sm90Gemm
  | sm100Gemm .. => .sm100Gemm
  | transpose .. => .transpose
  | transposeAndPack .. => .transposeAndPack
  | broadcast => .broadcast
  | broadcastAndPack => .broadcastAndPack

def name (kernel : KernelText) : String := kernel.family.name

def code : KernelText → Native Code
  | sm90MqaLogits numHeads headDim isCompressedLogits blockQ blockKv numQStages numKvStages numSms
      numSpecializedThreads numMathThreads logitsDtype =>
    sm90MqaLogitsCode numHeads headDim isCompressedLogits blockQ blockKv numQStages numKvStages numSms
      numSpecializedThreads numMathThreads logitsDtype
  | sm100MqaLogits isFp4 numHeads headDim isCompressedLogits blockQ splitKv numQStages numKvStages numSms
      numSpecializedThreads numMathThreads logitsDtype weightsDtype =>
    sm100MqaLogitsCode isFp4 numHeads headDim isCompressedLogits blockQ splitKv numQStages numKvStages numSms
      numSpecializedThreads numMathThreads logitsDtype weightsDtype
  | cleanLogits nextN blockKv numWarps logitsDtype => cleanLogitsCode nextN blockKv numWarps logitsDtype
  | sm90Metadata alignedBatchSize splitKv numSms isVarlen =>
    .ok (sm90MetadataCode alignedBatchSize splitKv numSms isVarlen)
  | sm100Metadata nextN isContextLens2d isVarlen splitKv numSms =>
    .ok (sm100MetadataCode nextN isContextLens2d isVarlen splitKv numSms)
  | sm90PagedMqaLogits nextN numHeads headDim blockKv isContextLens2d isVarlen numQStages numKvStages splitKv
      numSpecializedThreads numMathThreads logitsDtype =>
    sm90PagedMqaLogitsCode nextN numHeads headDim blockKv isContextLens2d isVarlen numQStages numKvStages splitKv
      numSpecializedThreads numMathThreads logitsDtype
  | sm100PagedMqaLogits isFp4 tokensPerRequest numHeads headDim pageKv isContextLens2d isVarlen numQStages
      numKvStages splitKv splitsPerChunk numSpecializedThreads numMathThreads logitsDtype weightsDtype =>
    sm100PagedMqaLogitsCode isFp4 tokensPerRequest numHeads headDim pageKv isContextLens2d isVarlen numQStages
      numKvStages splitKv splitsPerChunk numSpecializedThreads numMathThreads logitsDtype weightsDtype
  | sm90Gemm n k config numSms => .ok (sm90Fp8Gemm1d2dCode n k config numSms)
  | sm100Gemm n k granKA granKB config numSms => .ok (sm100Fp8Gemm1d1dCode n k granKA granKB config numSms)
  | transpose numThreads blockMn sfK => .ok (transposeFp32Code numThreads blockMn sfK)
  | transposeAndPack numThreads blockMn sfK => .ok (transposeAndPackFp32Code numThreads blockMn sfK)
  | broadcast => .ok broadcastTransposeFp32Code
  | broadcastAndPack => .ok broadcastTransposeAndPackFp32Code

end KernelText

/-! ## The values can be read off a text -/

/-- A comma or the end of a line. -/
def IsDelimiter (c : Char) : Prop := c = ',' ∨ c = '\n'

instance isDelimiterDecidable : DecidablePred IsDelimiter := fun _ => inferInstanceAs (Decidable (_ ∨ _))

/-- Arguments of one type. -/
def Value.Alike : Value → Value → Prop
  | .int _, .int _ => True
  | .bool _, .bool _ => True
  | .dtype _, .dtype _ => True
  | _, _ => False

theorem not_isDelimiter_of_numeralChar {c : Char} (h : NumeralChar c) : ¬ IsDelimiter c := by
  rintro (rfl | rfl)
  · exact absurd h (by decide)
  · exact absurd h (by decide)

theorem Value.free (value : Value) : ∀ c ∈ value.print.toList, ¬ IsDelimiter c := by
  cases value with
  | int value => exact fun c hc => not_isDelimiter_of_numeralChar (numeralChar_int c hc)
  | bool value => cases value <;> decide
  | dtype value => cases value <;> decide

theorem Value.print_inj (value value' : Value) (halike : value.Alike value') (h : value.print = value'.print) :
    value = value' := by
  cases value with
  | int value =>
    cases value' with
    | int value' => exact congrArg Value.int (toString_int_inj h)
    | bool _ => exact halike.elim
    | dtype _ => exact halike.elim
  | bool value =>
    cases value' with
    | int _ => exact halike.elim
    | bool value' => cases value <;> cases value' <;> first | rfl | exact absurd h (by decide)
    | dtype _ => exact halike.elim
  | dtype value =>
    cases value' with
    | int _ => exact halike.elim
    | bool _ => exact halike.elim
    | dtype value' => cases value <;> cases value' <;> first | rfl | exact absurd h (by decide)

/-- How template arguments are streamed. -/
def printer : Printer Value where
  print := Value.print
  Alike := Value.Alike
  delimiter := IsDelimiter
  free := Value.free
  print_inj := Value.print_inj

theorem KernelFamily.name_inj {a b : KernelFamily} (h : a.name = b.name) : a = b := by
  cases a <;> cases b <;> first | rfl | exact absurd h (by decide)

theorem delimited_instantiation {header kernel : String} {arguments : Code} (h : printer.Delimited arguments) :
    printer.Delimited (instantiation header kernel arguments) := by
  have hlines : printer.Delimited [lit "    >);\n", lit "\x7d;\n"] := trivial
  exact h.append hlines

theorem sameForm_instantiation {header kernel : String} {arguments arguments' : Code}
    (h : printer.SameForm arguments arguments') :
    printer.SameForm (instantiation header kernel arguments) (instantiation header kernel arguments') := by
  have hlines : printer.SameForm [lit "    >);\n", lit "\x7d;\n"] [lit "    >);\n", lit "\x7d;\n"] :=
    ⟨rfl, rfl, trivial⟩
  exact ⟨rfl, rfl, rfl, rfl, h.append hlines⟩

namespace KernelText

variable {a b kernel : KernelText} {s t : Code}

/-- A delimiter follows each template argument. -/
theorem delimited (h : kernel.code = .ok s) : printer.Delimited s := by
  cases kernel with
  | sm90MqaLogits | sm100MqaLogits | cleanLogits | sm90PagedMqaLogits | sm100PagedMqaLogits =>
    obtain ⟨_, -, h⟩ := bind_eq_ok.mp h
    cases h
    apply delimited_instantiation
    simp [Printer.Delimited, Printer.Stops, printer, IsDelimiter, lit, Code.int, Code.bool, dtypeName]
  | sm90Metadata | sm100Metadata | sm90Gemm | sm100Gemm | transpose | transposeAndPack =>
    cases h
    apply delimited_instantiation
    simp [Printer.Delimited, Printer.Stops, printer, IsDelimiter, lit, Code.int, Code.bool]
  | broadcast | broadcastAndPack =>
    cases h
    trivial

/-- The texts of one kernel differ in the template arguments only. -/
theorem sameForm (hfamily : a.family = b.family) (ha : a.code = .ok s) (hb : b.code = .ok t) :
    printer.SameForm s t := by
  cases a with
  | sm90MqaLogits | sm100MqaLogits | cleanLogits | sm90PagedMqaLogits | sm100PagedMqaLogits =>
    cases b <;> cases hfamily
    obtain ⟨_, -, ha⟩ := bind_eq_ok.mp ha
    obtain ⟨_, -, hb⟩ := bind_eq_ok.mp hb
    cases ha
    cases hb
    apply sameForm_instantiation
    simp [Printer.SameForm, printer, Value.Alike, lit, Code.int, Code.bool, dtypeName]
  | sm90Metadata | sm100Metadata | sm90Gemm | sm100Gemm | transpose | transposeAndPack =>
    cases b <;> cases hfamily
    cases ha
    cases hb
    apply sameForm_instantiation
    simp [Printer.SameForm, printer, Value.Alike, lit, Code.int, Code.bool]
  | broadcast | broadcastAndPack =>
    cases b <;> cases hfamily
    cases ha
    cases hb
    exact ⟨rfl, trivial⟩

/-- **The text of a kernel tells its template arguments**: kernels with one name and one text are written with
the same arguments in the same places. -/
theorem code_eq_of_render (hname : a.name = b.name) (ha : a.code = .ok s) (hb : b.code = .ok t)
    (h : printer.render s = printer.render t) : s = t :=
  Printer.render_inj (delimited ha) (sameForm (KernelFamily.name_inj hname) ha hb) h

end KernelText

end DeepGemmRs.Raw
