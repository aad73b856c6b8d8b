import DeepGemmRs.Lib.MachineInt

/-!
# Status codes, native exceptions and Rust errors

* `Native` : C++ code of `deepgemm_rs`, which returns, throws a `StatusError`, or runs into an
  operation the language leaves undefined;
* `Rust` : code of the `deepgemm` crate, which returns `Ok`, returns `Err`, or panics;
* `checkNative` : `ffi_call` on the one side and `Error::check_raw_status` on the other.
-/

namespace DeepGemmRs

open MachineInt

/-- `deepgemm_status_t`. -/
inductive Status where
  | success
  | invalidArgument
  | unsupportedArch
  | cudaError
  | internalError
deriving DecidableEq, Repr

def Status.code : Status → Int
  | success => 0
  | invalidArgument => 1
  | unsupportedArch => 2
  | cudaError => 3
  | internalError => 4

/-- How native code stops short of its end. -/
inductive Stop where
  /-- `throw_status`. -/
  | status (status : Status) (message : String)
  | overflow
  | divByZero
deriving DecidableEq, Repr

abbrev Native : Type → Type := Except Stop

instance : MachineFault Stop := ⟨.overflow, .divByZero⟩

/-- `throw_status(DEEPGEMM_STATUS_INVALID_ARGUMENT, message)`. -/
abbrev Stop.invalid (message : String) : Stop := .status .invalidArgument message

/-- `throw_status(DEEPGEMM_STATUS_UNSUPPORTED_ARCH, message)`. -/
abbrev Stop.unsupported (message : String) : Stop := .status .unsupportedArch message

/-- `deepgemm::Error`. -/
inductive Error where
  | invalidArgument (message : String)
  | unsupportedArch (message : String)
  | cuda (message : String)
  | internal (message : String)
  | unknownStatus (status : Int) (message : String)
deriving DecidableEq, Repr

/-- `Error::from_raw_status`. -/
def Error.fromRawStatus (status : Status) (message : String) : Error :=
  match status with
  | .invalidArgument => .invalidArgument message
  | .unsupportedArch => .unsupportedArch message
  | .cudaError => .cuda message
  | .internalError => .internal message
  | .success => .unknownStatus status.code message

/-- How Rust code stops short of its end. -/
inductive RustStop where
  | err (error : Error)
  /-- A failed `expect`, or overflow under debug assertions. -/
  | panic (message : String)
  /-- A native call that had no defined result. -/
  | undefined
deriving DecidableEq, Repr

abbrev Rust : Type → Type := Except RustStop

instance : MachineFault RustStop :=
  ⟨.panic "attempt to compute with overflow", .panic "attempt to divide by zero"⟩

/-- `Err(Error::InvalidArgument(message))`. -/
abbrev RustStop.invalid (message : String) : RustStop := .err (.invalidArgument message)

/-- `Err(Error::UnsupportedArch(message))`. -/
abbrev RustStop.unsupported (message : String) : RustStop := .err (.unsupportedArch message)

/-- A native call as its Rust caller sees it: `ffi_call` turns the exception into a status and the
thread's last error, `Error::check_raw_status` turns these into an `Err`. -/
def checkNative {α : Type} : Native α → Rust α
  | .ok a => .ok a
  | .error (.status status message) => .error (.err (Error.fromRawStatus status message))
  | .error .overflow | .error .divByZero => .error .undefined

@[simp] theorem checkNative_eq_ok {α : Type} {x : Native α} {a : α} :
    checkNative x = .ok a ↔ x = .ok a := by
  unfold checkNative
  split <;> simp

end DeepGemmRs
