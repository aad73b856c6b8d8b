import DeepGemmRs.Abi.Error

/-!
# Devices and the runtime

* `Arch` : the architecture families of the crate, `Arch.fromComputeCapability`;
* `DeviceInfo` : what the runtime reports of the current device;
* `Runtime` : the current device and the settings of the native runtime, as one call finds them.
-/

namespace DeepGemmRs

open MachineInt

/-- `deepgemm::Arch`. -/
inductive Arch where
  | sm90
  | sm100
deriving DecidableEq, Repr

def Arch.fromComputeCapability (major _minor : Int) : Option Arch :=
  if major = 9 then some sm90 else if major = 10 then some sm100 else none

/-- The compute capability, major version, of the family. -/
def Arch.major : Arch → Int
  | sm90 => 9
  | sm100 => 10

theorem Arch.fromComputeCapability_eq_some {major minor : Int} {arch : Arch} :
    fromComputeCapability major minor = some arch ↔ major = arch.major := by
  unfold fromComputeCapability
  cases arch <;> simp only [Arch.major] <;> split <;> first | (split <;> simp_all) | simp_all

/-- `DeviceInfo`, on both sides. -/
structure DeviceInfo where
  device : Int
  major : Int
  minor : Int
  numSms : I32

/-- `DeviceInfo::arch`. -/
def DeviceInfo.arch (info : DeviceInfo) : Rust Arch :=
  match Arch.fromComputeCapability info.major info.minor with
  | some arch => .ok arch
  | none => .error (.unsupported s!"unsupported compute capability {info.major}.{info.minor}")

theorem DeviceInfo.arch_eq_ok {info : DeviceInfo} {arch : Arch} :
    info.arch = .ok arch ↔ info.major = arch.major := by
  have harch : Arch.fromComputeCapability info.major info.minor = some arch ↔ info.major = arch.major :=
    Arch.fromComputeCapability_eq_some
  rw [← harch, DeviceInfo.arch]
  split <;> simp_all

/-- The native runtime at a call. -/
structure Runtime where
  currentDeviceInfo : Native DeviceInfo
  numSmsOverride : I32
  pdlEnabled : Bool

/-- `effective_num_sms`. -/
def Runtime.effectiveNumSms (runtime : Runtime) : Native Int :=
  if runtime.numSmsOverride.val > 0 then .ok runtime.numSmsOverride
  else do
    let info ← runtime.currentDeviceInfo
    .ok info.numSms

/-- An H100. -/
def h100 : DeviceInfo := ⟨0, 9, 0, 132⟩

end DeepGemmRs
