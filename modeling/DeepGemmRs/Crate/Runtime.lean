import DeepGemmRs.Crate.Gemm
import DeepGemmRs.Crate.Mqa
import DeepGemmRs.Raw.MqaLaunch

/-!
# The crate's launch functions

* `deviceInfo`, `currentArch` : `deepgemm::device_info` and the architecture of the device;
* `fp8Fp4MqaLogits`, `fp8GemmTransformScale`, `fp8GemmNt` : checks, conversion and native call.

CUDA and `nvcc` do what they are asked; a launch is returned as the kernels it enqueues.
-/

namespace DeepGemmRs

open Checked MachineInt

namespace Raw

/-- `launch_fp8_fp4_mqa_logits`. -/
def launchFp8Fp4MqaLogits (runtime : Runtime) (params : MqaLogitsParams) : Native (List Launch) := do
  let device ← runtime.currentDeviceInfo
  let dispatch ← dispatchMqaLogits device params
  let numSms ← runtime.effectiveNumSms
  launchMqaLogits .machine params numSms runtime.pdlEnabled dispatch

end Raw

namespace Crate

/-- `deepgemm::device_info`. -/
def deviceInfo (runtime : Runtime) : Rust DeviceInfo := checkNative runtime.currentDeviceInfo

/-- `device_info()?.arch()?`. -/
def currentArch (runtime : Runtime) : Rust Arch := do
  let info ← deviceInfo runtime
  info.arch

/-- `deepgemm::fp8_fp4_mqa_logits`. -/
def fp8Fp4MqaLogits (runtime : Runtime) (params : MqaLogitsLaunch) : Rust (List Raw.Launch) := do
  let arch ← currentArch runtime
  params.check arch
  let raw ← params.toRaw
  checkNative (Raw.launchFp8Fp4MqaLogits runtime raw)

/-- `deepgemm::fp8_gemm_transform_scale`. -/
def fp8GemmTransformScale (runtime : Runtime) (params : Fp8GemmScaleTransformLaunch) : Rust Raw.Launch := do
  validateFp8GemmScaleTransformSpec params.spec
  let raw ← params.toRaw
  checkNative (Raw.Gemm.launchFp8GemmTransformScale runtime raw)

/-- `deepgemm::fp8_gemm_nt`. -/
def fp8GemmNt (runtime : Runtime) (params : Fp8GemmNtLaunch) : Rust Raw.Launch := do
  let arch ← currentArch runtime
  params.check arch
  let raw ← params.toRaw
  checkNative (Raw.Gemm.launchFp8GemmNt runtime raw)

end Crate

end DeepGemmRs
