import DeepGemmRs.Crate.Runtime

/-!
# The crate's paged launch functions

* `numSms` : `deepgemm::num_sms`;
* `pagedMqaLogitsMetadata`, `fp8Fp4PagedMqaLogits` : checks, conversion and native call.
-/

namespace DeepGemmRs

open Checked MachineInt

namespace Raw

/-- `launch_paged_mqa_logits_metadata`. -/
def launchPagedMetadata (runtime : Runtime) (params : PagedMqaLogitsMetadataParams) : Native Launch := do
  let device ← runtime.currentDeviceInfo
  let dispatch ← dispatchPagedMqaLogitsMetadata device params
  launchPagedMqaLogitsMetadata .machine params runtime.pdlEnabled dispatch

/-- `launch_fp8_fp4_paged_mqa_logits`. -/
def launchFp8Fp4PagedMqaLogits (runtime : Runtime) (params : PagedMqaLogitsParams) : Native Launch := do
  let device ← runtime.currentDeviceInfo
  let dispatch ← dispatchPagedMqaLogits device params
  launchPagedMqaLogits .machine params runtime.pdlEnabled dispatch

end Raw

namespace Crate

/-- `deepgemm::num_sms`. -/
def numSms (runtime : Runtime) : Rust Int := checkNative runtime.effectiveNumSms

/-- `deepgemm::paged_mqa_logits_metadata`. -/
def pagedMqaLogitsMetadata (runtime : Runtime) (params : PagedMqaLogitsMetadataLaunch) : Rust Raw.Launch := do
  let arch ← currentArch runtime
  params.check arch
  let raw ← params.toRaw
  checkNative (Raw.launchPagedMetadata runtime raw)

/-- `deepgemm::fp8_fp4_paged_mqa_logits`. -/
def fp8Fp4PagedMqaLogits (runtime : Runtime) (params : PagedMqaLogitsLaunch) : Rust Raw.Launch := do
  let arch ← currentArch runtime
  params.check arch
  let raw ← params.toRaw
  checkNative (Raw.launchFp8Fp4PagedMqaLogits runtime raw)

end Crate

end DeepGemmRs
